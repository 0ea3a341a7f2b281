/-
# The build tool

Three commands of the build tool matter: one reports where things are, one answers queries, and
one builds. Each runs in the workspace with the common flags before its own.
-/

import PackageListing.Build.Harvest
import PackageListing.Config
import PackageListing.Machine
import PackageListing.Query

namespace PackageListing

/-- How to start the build tool. -/
structure BuildTool where
  /-- The program. -/
  program : String
  /-- The flags of every command. -/
  flags : List String
  /-- The working directory. -/
  directory : String
  deriving DecidableEq, Inhabited

namespace BuildTool

/-- The build tool of a configuration. -/
def ofConfig (config : Config) (directory : String) : BuildTool :=
  { program := config.buildTool, flags := config.commonFlags, directory := directory }

/-- Runs a command. -/
def run (tool : BuildTool) (command : String) (arguments : List String) : Action (List UInt8) :=
  Action.runTool tool.program command (tool.flags ++ arguments) tool.directory []

/-- The text without the carriage returns at its end. -/
def dropReturns (s : List Char) : List Char :=
  (s.reverse.dropWhile (· == '\r')).reverse

/-- The key and the value in a line of a report, between which stand a colon and a blank. -/
def reportEntry? (line : List Char) : Option (String × String) :=
  (Text.cutAt [':', ' '] line).map fun p =>
    (String.ofList (Text.trim p.1), String.ofList (dropReturns p.2))

/-- The values in a report, by key. Of two lines with one key the later counts. -/
def parseReport (report : List Char) : Names.Map :=
  .ofList ((Text.lines report).filterMap reportEntry?)

/-- Asks where things are. -/
def info (tool : BuildTool) : Action Names.Map := do
  return parseReport (Text.lossyText (← tool.run "info" []))

/-- Asks for the targets that a query finds. -/
def query (tool : BuildTool) (flags : List String) (expression : String) :
    Action (List String) := do
  return Query.labels (← tool.run "query" (flags ++ ["--", expression]))

/-- Builds. -/
def build (tool : BuildTool) (arguments : List String) : Action Unit := do
  let _ ← tool.run "build" arguments

/-- The targets that some files and patterns name. Without any, nothing is asked. -/
def targets (tool : BuildTool) (root : String) (flags files patterns : List String) :
    Action (List String) :=
  let expression := Query.expression root files patterns
  if expression.isEmpty then pure [] else tool.query flags expression

end BuildTool

namespace Build

/-- The flag that says where the log of a build goes. -/
def logFlag : String := "--build_event_binary_file="

/-- The flags of a build of descriptors, less those of the caller. -/
def descriptorFlags (aspect logPath : String) : List String :=
  ["--spawn_strategy=standalone", "--aspects=" ++ aspect, "--output_groups=" ++ outputGroup,
    logFlag ++ logPath]

/-- The path of the log file number `n` in a directory. -/
def logPath (directory : String) (n : Nat) : String :=
  Path.join directory ("gopackagesdriver" ++ toString n ++ ".bep")

/-- The directory for files of short life. -/
def temporaryDirectory (env : Environment) : String :=
  (env.get? "TMPDIR").getD "/tmp"

/-- The path of a log file that is not there yet: of `tries` numbers from `n` on the first that
is free. -/
def freeLogPath (fs : FileSystem) (directory : String) (n : Nat) : (tries : Nat) → String
  | 0 => logPath directory n
  | tries + 1 =>
    match fs.resolve (logPath directory n) with
    | .ok _ => freeLogPath fs directory (n + 1) tries
    | .error _ => logPath directory n

/-- Makes an empty log file and gives its path. -/
def createLog : Action String := fun m =>
  let directory := m.files.absolute (temporaryDirectory m.env)
  let path := freeLogPath m.files directory 0 1000
  match m.files.write path [] with
  | .ok files => (.ok path, { m with files := files })
  | .error e => (.error ⟨[.createEventLog], .io e⟩, m)

/-- Builds targets with the aspect and gives the files of descriptors that it produced. The log of
the build is removed, whether the build succeeds or not. -/
def descriptorFiles (tool : BuildTool) (config : Config) (facets : Facets)
    (flags targets : List String) (standardLibrary : Bool) : Action (List String) :=
  if targets.isEmpty && !standardLibrary then pure []
  else do
    let path ← createLog
    let aspect := aspectName config.aspectFile facets
    let wanted := targets ++ if standardLibrary then [config.standardTarget] else []
    let harvested : Action (List String) := do
      tool.build (descriptorFlags aspect path ++ flags ++ ["--"] ++ wanted)
      let log ← Action.look fun m => Failure.duringIo (.readEventLog path) (m.files.read path)
      match harvest aspect (.ofBytes log) with
      | .ok files => return files
      | .error defect => Action.fail (.ofHarvest defect)
    harvested.ensuring fun fs => fs.remove path

end Build
end PackageListing
