/-
# Files of descriptors

A build leaves descriptors in files. A directory stands for the descriptors in all files below
it, and the marker of the standard library stands for the directory it lies in. The tool's own
cache is no part of either. The paths in a descriptor are relative: those of other repositories to
where the build ran, all others to the workspace.
-/

import PackageListing.Failure
import PackageListing.Package

namespace PackageListing
namespace Descriptors

/-- The file that marks the directory of the standard library. -/
def marker : String := ".stdlib_marker"

/-- The directory of the tool's cache. -/
def cacheName : String := ".gocache"

/-- The directory that the path of a marker stands for. -/
def markedDirectory? (path : String) : Option String :=
  if Path.fileName? path = some marker then Path.parent? path else none

/-- Whether a walk takes a file for a descriptor. -/
def isDescriptor (path : String) : Bool :=
  Path.fileName? path != some marker && Path.extension? path == some "json"

/-- The descriptor in a file. -/
def loadFile (fs : FileSystem) (path : String) : Except Failure Package := do
  let bytes ← Failure.duringIo (.read path) (fs.read path)
  match (Json.ofBytes? bytes).bind Package.decode? with
  | some p => return p
  | none => throw (.of (.malformedDescriptor path))

/-- What there is to load of what a walk below a directory comes to. A directory is listed by its
path, and where that fails, the walk does. -/
def found? (fs : FileSystem) (directory : String) (v : String × FileTree) :
    Option (Except Failure String) :=
  match v.2 with
  | .directory _ =>
    match fs.get v.1 with
    | .ok _ => none
    | .error e => some (.error ⟨[.walk directory], .unlisted v.1 e⟩)
  | t => if t.isRegular && isDescriptor v.1 then some (.ok v.1) else none

/-- The files of descriptors below a directory, in the order of a walk, and the failures of the walk
in their places. The path `-` names no directory here. -/
def foundBelow (fs : FileSystem) (tree : FileTree) (path : String) :
    List (Except Failure String) :=
  if Path.components path = [.member "-"] then []
  else (tree.visits cacheName path).filterMap (found? fs path)

/-- The files that a path stands for, as a walk comes to them. -/
def foundOf (fs : FileSystem) (path : String) : Except Failure (List (Except Failure String)) := do
  let path := (markedDirectory? path).getD path
  let tree ← Failure.duringIo (.inspect path) (fs.get path)
  return if tree.isDirectory then foundBelow fs tree path else [.ok path]

/-- The descriptors that a path stands for. -/
def loadPath (fs : FileSystem) (path : String) : Except Failure (List Package) := do
  (← foundOf fs path).mapM fun found => do loadFile fs (← found)

/-- The descriptors that some paths stand for. -/
def load (fs : FileSystem) (paths : List String) : Except Failure (List Package) := do
  return (← paths.mapM (loadPath fs)).flatten

/-- What the paths of other repositories begin with. -/
def externalStart : String := "external/"

/-- The absolute form of a path in a descriptor. -/
def absolutePath (workspace execution path : String) : String :=
  if Path.isAbsolute path then path
  else if (Text.afterStart? externalStart.toList path.toList).isSome then Path.join execution path
  else Path.join workspace path

/-- The descriptor with all its paths absolute. -/
def absolute (workspace execution : String) (p : Package) : Package :=
  let fix := absolutePath workspace execution
  { p with
    goFiles := p.goFiles.map fix
    compiledGoFiles := p.compiledGoFiles.map fix
    otherFiles := p.otherFiles.map fix
    exportFile := p.exportFile.map fix }

/-- The files after a descriptor is written to one, with the directories above it. -/
def write (fs : FileSystem) (p : Package) (path : String) : Except Failure FileSystem := do
  let fs ←
    match Path.parent? path with
    | some parent => Failure.duringIo (.createDirectory parent) (fs.createDirectories parent)
    | none => pure fs
  let contents := Text.encode (p.render.toList ++ ['\n'])
  Failure.duringIo (.createFile path) (fs.write path contents)

end Descriptors
end PackageListing
