/-
# Descriptors of the standard library

The go tool lists the standard library, and each package becomes a file of its own, named by its
path. The marker comes last, so a directory with a marker is complete.
-/

import PackageListing.Descriptors
import PackageListing.GoTool

namespace PackageListing
namespace StandardLibrary

/-- The variables with paths that the go tool needs in absolute form. -/
def pathVariables : List String :=
  ["GOROOT", "CC"]

/-- The go tool of a path, which keeps its cache in the output directory. -/
def toolFor (fs : FileSystem) (env : Environment) (program output : String) : GoTool :=
  let program := fs.absolute program
  let directory := (Path.parent? program).getD "."
  let paths := pathVariables.filterMap fun name =>
    (Environment.nonempty? env name).map fun value => (name, fs.absolute value)
  { program := program
    directory := directory
    changes :=
      [("PATH", directory), ("GOCACHE", Path.join output Descriptors.cacheName)] ++ paths
    flags := [] }

/-- The file for a package below the output directory. -/
def fileFor (output : String) (p : Package) : String :=
  Path.join output (p.path ++ ".json")

/-- The files after the marker is written. -/
def writeMarker (output : String) (fs : FileSystem) : Except Failure FileSystem := do
  let fs ← Failure.duringIo (.createDirectory output) (fs.createDirectories output)
  let path := Path.join output Descriptors.marker
  Failure.duringIo (.write path) (fs.write path [])

/-- Describes the standard library of a go tool in a directory, with `label` before each
identifier, and gives the number of its packages. -/
def describe (program output label : String) : Action Nat := do
  let (tool, output) ← Action.look fun m =>
    let output := m.files.absolute output
    .ok (toolFor m.files m.env program output, output)
  let listed ← (tool.list ["std"]).during .listStandardLibrary
  (listed.map (·.toPackage label)).forM fun p =>
    Action.change fun fs => Descriptors.write fs p (fileFor output p)
  Action.change (writeMarker output)
  return listed.length

end StandardLibrary
end PackageListing
