/-
# The programs on a real machine

Both programs are one executable, and its file name says which of the two it is. The files that
the command line names, and the markers of a workspace around the working directory, are read
before the program runs, and what it changed is written after it. Tools are not started here, so
a listing that needs one says that it is not there.
-/

import PackageListing.Program

namespace PackageListing
namespace Main

/-- The variables that the programs look at. -/
def variableNames : List String :=
  ["PATH", "TMPDIR", "GOOS", "GOARCH", "CGO_ENABLED", "GOROOT", "CC", "GOPACKAGESDRIVER_BAZEL",
    "GOPACKAGESDRIVER_BAZEL_FLAGS", "GOPACKAGESDRIVER_BAZEL_QUERY_FLAGS",
    "GOPACKAGESDRIVER_BAZEL_BUILD_FLAGS", "GOPACKAGESDRIVER_RULES_GO_REPOSITORY_NAME",
    "GOPACKAGESDRIVER_GO"]

/-- The short account of a command line that is printed where it is not understood. -/
def usage (name : String) : String :=
  if name = Program.builderName then "Usage: gopkg <pkg|stdlib> [flags]\n"
  else "Usage: gopackagesdriver [patterns], or gopackagesdriver list [flags] -- [patterns]\n"

/-- The paths that a word may name: the word, and what follows its first sign or an equality
sign. -/
def pathsIn (word : String) : List String :=
  let s := word.toList
  let after := ((Text.cutAt ['='] s).map Prod.snd).toList
  (s :: s.drop 1 :: after).map String.ofList

/-- The place of a path, as it is written. -/
def placeOf (directory path : String) : FileTree.Place :=
  (Path.components (Path.join directory path)).foldl (fun place c =>
    match c with
    | .member name => place ++ [name]
    | .parent => place.dropLast
    | .root | .current => place) []

/-- The contents of a file, if it can be read. -/
def contents? (path : String) : IO (Option (List UInt8)) := do
  try
    return some (← IO.FS.readBinFile path).toList
  catch _ => return none

/-- The tree with the files of some paths. -/
def addFiles (directory : String) (tree : FileTree) (paths : List String) : IO FileTree :=
  paths.foldlM (fun tree path => do
    match ← contents? path with
    | some contents => return FileTree.put (.file contents) tree (placeOf directory path)
    | none => return tree) tree

/-- The words, and the parameters in the files that they name. -/
def allWords (words : List String) : IO (List String) := do
  let lists ← words.mapM fun word => do
    match word.toList with
    | '@' :: path =>
      match ← contents? (String.ofList path) with
      | some bytes => return CommandLine.parametersIn (Text.lossyText bytes)
      | none => return []
    | _ => return []
  return words ++ lists.flatten

/-- The machine that a program with some words starts on. -/
def snapshot (words : List String) : IO Machine := do
  let directory := (← IO.currentDir).toString
  let place := placeOf "/" directory
  let markers := (Path.ancestors directory).flatMap fun d => Workspace.markers.map (Path.join d)
  let paths := (← allWords words).flatMap pathsIn ++ markers
  let tree ← addFiles directory (FileTree.put .empty .empty place) paths
  let changes ← variableNames.filterMapM fun name => do
    return (← IO.getEnv name).map fun value => (name, value)
  return {
    files := ⟨tree, place⟩
    env := Environment.overlay .empty changes
    behaviour := fun _ tree => { status := 127, stdout := [], tree := tree }
    runs := [] }

/-- Writes the files that a program changed. -/
def writeBack (before after : FileSystem) : IO Unit :=
  (after.tree.walk "" "").forM fun path => do
    match before.read path, after.read path with
    | .ok old, .ok new => if old != new then IO.FS.writeBinFile path new.toByteArray
    | .error _, .ok new =>
      IO.FS.createDirAll ((Path.parent? path).getD "/")
      IO.FS.writeBinFile path new.toByteArray
    | _, _ => pure ()

/-- Everything on standard input. -/
partial def readAll (stdin : IO.FS.Stream) (soFar : List UInt8) : IO (List UInt8) := do
  let bytes ← stdin.read 65536
  if bytes.isEmpty then return soFar
  readAll stdin (soFar ++ bytes.toList)

/-- Runs the program of a name. -/
def run (name : String) (words : List String) : IO UInt32 := do
  let before ← snapshot words
  let (ending, after) ←
    if name = Program.builderName then pure (Program.builder (name :: words) before)
    else
      let needsRequest :=
        match CommandLine.DriverCommand.parse (name :: words) with
        | .ok (.request _) => true
        | _ => false
      let stdin ← if needsRequest then readAll (← IO.getStdin) [] else pure []
      pure (Program.driver (name :: words) stdin before)
  writeBack before.files after.files
  IO.print (ending.stdout name (usage name))
  IO.eprint (ending.stderr name (usage name))
  return ending.status.toUInt32

end Main
end PackageListing

/-- Runs the program that the executable is named for. -/
def main (words : List String) : IO UInt32 := do
  let name := (← IO.appPath).fileName.getD PackageListing.Program.driverName
  PackageListing.Main.run name words
