/-
# Workspaces

A workspace is a directory with a marker file, and all that is below it. The build tool knows
where it puts what it builds, and where it runs.
-/

import PackageListing.BuildTool

namespace PackageListing

/-- The directories of a workspace. -/
structure Workspace where
  /-- The workspace itself. -/
  root : String
  /-- Where what is built goes. -/
  binaries : String
  /-- Where the tools of the build run. -/
  execution : String
  deriving DecidableEq, Inhabited

namespace Workspace

/-- The files that mark a workspace. -/
def markers : List String :=
  ["WORKSPACE", "WORKSPACE.bazel", "MODULE.bazel"]

/-- Whether a directory has a marker. -/
def isMarked (fs : FileSystem) (directory : String) : Bool :=
  markers.any fun marker => fs.isFile (Path.join directory marker)

/-- The nearest directory with a marker, from a path upward. -/
def rootAround? (fs : FileSystem) (path : String) : Option String :=
  (Path.ancestors path).find? (isMarked fs)

/-- The value of a key in a report, unless it is empty. -/
def reported? (report : Names.Map) (key : String) : Option String :=
  (report.get? key).filter fun value => !value.isEmpty

/-- The workspace that a report of the build tool describes, if it lies at `root`. -/
def ofReport (config : Config) (root : String) (report : Names.Map) :
    Except Failure Workspace := do
  let directory (key : String) : Except Failure String :=
    match reported? report key with
    | some value => .ok value
    | none => .error (.of (.unreported config.buildTool key))
  let binaries ← directory "bazel-bin"
  let execution ← directory "execution_root"
  return {
    root := (reported? report "workspace").getD root
    binaries := binaries
    execution := execution }

/-- The workspace at a root. -/
def ask (config : Config) (root : String) : Action Workspace := do
  let report ← (BuildTool.ofConfig config root).info
  Action.ofExcept (ofReport config root report)

/-- The workspace around a directory. -/
def discover (config : Config) (directory : String) : Action Workspace := do
  match ← Action.look fun m => .ok (rootAround? m.files directory) with
  | some root => ask config root
  | none => Action.fail .noWorkspace

end Workspace
end PackageListing
