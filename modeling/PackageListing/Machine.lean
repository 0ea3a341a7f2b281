/-
# The machine that tools run on

A listing reads files and runs tools, and each tool may change the files. `Machine` holds the
files, the variables of the process, the runs so far, and how tools behave: any function from a
run and the files before it to what it prints, its status, and the files after it. An `Action`
goes from one machine to the next and gives a result or a failure.
-/

import PackageListing.Environment
import PackageListing.Failure

namespace PackageListing

/-- The run of a tool. -/
structure Run where
  /-- The program. -/
  program : String
  /-- The arguments after the name of the program. -/
  arguments : List String
  /-- The working directory. -/
  directory : FileTree.Place
  /-- The variables. -/
  env : Environment
  deriving DecidableEq, Inhabited

/-- What the run of a tool leads to. -/
structure Outcome where
  /-- The status; nought is success. -/
  status : UInt8
  /-- What the tool prints. -/
  stdout : List UInt8
  /-- The files after it. -/
  tree : FileTree
  deriving Inhabited

/-- The files, the variables, and the tools. -/
structure Machine where
  /-- The files. -/
  files : FileSystem
  /-- The variables of the process. -/
  env : Environment
  /-- How tools behave. -/
  behaviour : Run → FileTree → Outcome
  /-- The runs so far, in their order. -/
  runs : List Run
  deriving Inhabited

/-- What a process does on a machine. -/
abbrev Action (α : Type) : Type := ExceptT Failure (StateM Machine) α

namespace Action

/-- An action without effect. -/
def ofExcept {α : Type} (x : Except Failure α) : Action α :=
  fun m => (x, m)

/-- A failure outside all activities. -/
def fail {α : Type} (cause : Cause) : Action α :=
  ofExcept (.error (.of cause))

/-- What a look at the machine gives. -/
def look {α : Type} (f : Machine → Except Failure α) : Action α :=
  fun m => (f m, m)

/-- Changes the files, or leaves them alone and fails. -/
def change (f : FileSystem → Except Failure FileSystem) : Action Unit :=
  fun m =>
    match f m.files with
    | .ok files => (.ok (), { m with files := files })
    | .error e => (.error e, m)

/-- An action, whose failure interrupts an activity. -/
def during {α : Type} (activity : Activity) (a : Action α) : Action α :=
  fun m => ((a m).1.mapError (Failure.within activity), (a m).2)

/-- An action that does not fail; what the other one comes to is its result. -/
def settled {α : Type} (a : Action α) : Action (Except Failure α) :=
  fun m => (.ok (a m).1, (a m).2)

/-- An action, and then a change of the files, whether the action fails or not. -/
def ensuring {α : Type} (a : Action α) (f : FileSystem → FileSystem) : Action α :=
  fun m => ((a m).1, { (a m).2 with files := f (a m).2.files })

end Action

namespace Machine

/-- The program in the file that a path leads to. Only programs can be run. -/
def programAt (fs : FileSystem) (path : String) : Except IoError String := do
  match ← fs.get path with
  | .program name => return name
  | _ => throw .permissionDenied

/-- The first program of a name in some directories. A file that is no program counts only when
there is none. -/
def searchProgram (fs : FileSystem) (name : String) (fallback : IoError) :
    List String → Except IoError String
  | [] => .error fallback
  | directory :: rest =>
    match programAt fs (if directory.isEmpty then name else directory ++ "/" ++ name) with
    | .ok program => .ok program
    | .error .permissionDenied => searchProgram fs name .permissionDenied rest
    | .error .notFound | .error .notADirectory => searchProgram fs name fallback rest
    | .error e => .error e

/-- The program that a command names: by a path, or by a name in one of the directories of the
search path. -/
def findProgram (fs : FileSystem) (env : Environment) (command : String) :
    Except IoError String :=
  if command.isEmpty then .error .notFound
  else if command.toList.contains '/' then programAt fs command
  else
    let search := (env.get? "PATH").getD "/bin:/usr/bin"
    searchProgram fs command .notFound ((search.toList.splitOn ':').map String.ofList)

/-- A text that cannot be handed to a tool. -/
def hasZero (s : String) : Bool :=
  s.toList.contains '\x00'

/-- Whether some changes come to a variable that cannot be handed to a tool. -/
def changesHaveZero (changes : List (String × String)) : Bool :=
  (Names.Map.ofList changes).entries.any fun v => hasZero v.1 || hasZero v.2

/-- The run that a command, started in a directory with some more variables, comes to. -/
def prepare (m : Machine) (command : String) (arguments : List String) (directory : String)
    (changes : List (String × String)) : Except IoError Run := do
  if hasZero command || arguments.any hasZero || hasZero directory || changesHaveZero changes then
    throw .zeroByte
  let place ← m.files.resolve directory
  match m.files.tree.at? place with
  | some (.directory _) =>
    let env := Environment.overlay m.env changes
    let program ← findProgram { m.files with workingPlace := place } env command
    return { program := program, arguments := arguments, directory := place, env := env }
  | some _ => throw .notADirectory
  | none => throw .notFound

/-- The machine after a run, and what the run comes to. -/
def perform (m : Machine) (run : Run) : Outcome × Machine :=
  let outcome := m.behaviour run m.files.tree
  (outcome, { m with files := { m.files with tree := outcome.tree }, runs := m.runs ++ [run] })

end Machine

/-- Runs a tool and gives what it prints. The command is its first argument. -/
def Action.runTool (tool command : String) (arguments : List String) (directory : String)
    (changes : List (String × String)) : Action (List UInt8) :=
  fun m =>
    match m.prepare tool (command :: arguments) directory changes with
    | .error e => (.error ⟨[.runTool tool command], .io e⟩, m)
    | .ok run =>
      let (outcome, m) := m.perform run
      if outcome.status = 0 then (.ok outcome.stdout, m)
      else (.error (.of (.toolFailed tool command outcome.status)), m)

end PackageListing
