/-
# Listing packages

A listing answers which packages some patterns name. Inside a workspace the build tool resolves
the patterns to targets and builds their descriptors; outside, the go tool answers. Each step
starts only after the one before it has succeeded.
-/

import PackageListing.Descriptors
import PackageListing.GoTool
import PackageListing.Pattern
import PackageListing.Request
import PackageListing.Workspace

namespace PackageListing
namespace Listing

/-- How to list. -/
structure Options where
  /-- What descriptors have to take in. -/
  facets : Build.Facets
  /-- Flags for the tools. -/
  buildFlags : List String
  /-- Entries of variables for the go tool. -/
  env : List String
  /-- The architecture whose sizes count. -/
  architecture : String
  deriving DecidableEq, Inhabited

/-- The architecture that the variables of a process ask for. -/
def defaultArchitecture (env : Environment) : String :=
  (Environment.nonempty? env "GOARCH").getD Constraint.Context.host.architecture

/-- The facets that a request needs. Types are read from export data. -/
def facetsOf (r : Request) : Build.Facets where
  deps := r.mode.contains .deps
  exports := r.mode.intersects (LoadMode.exportFile.union .types)
  tests := r.tests

/-- How to list for a request, in a process with some variables. -/
def Options.ofRequest (env : Environment) (r : Request) : Options where
  facets := facetsOf r
  buildFlags := r.buildFlags
  env := r.env
  architecture :=
    ((r.envValue? "GOARCH").filter fun value => !value.isEmpty).getD (defaultArchitecture env)

/-- Adds the sizes that types have. -/
def withSizes (options : Options) (r : Response) : Response :=
  { r with sizes := some (.ofArchitecture options.architecture) }

/-- Answers outside workspaces. -/
def outside (config : Config) (directory : String) (options : Options)
    (patterns : List String) : Action Response := do
  let tool : GoTool := {
    program := config.goTool
    directory := directory
    changes := options.env.filterMap Environment.entry?
    flags := [] }
  return withSizes options (← tool.answer options.facets options.buildFlags patterns)

/-- The identifiers that begin with a text. -/
def idsFrom (start : String) (packages : List Package) : List String :=
  (packages.map (·.id)).filter fun id => (Text.afterStart? start.toList id.toList).isSome

/-- The response to what was built in a workspace. -/
def assemble (config : Config) (workspace : Workspace) (options : Options)
    (standardLibrary : Bool) (targets : List String) (loaded : List Package) : Response :=
  let packages := loaded.map (Descriptors.absolute workspace.root workspace.execution)
  withSizes options {
    sizes := none
    roots := targets ++ if standardLibrary then idsFrom config.standardStart packages else []
    packages := packages }

/-- Answers in a workspace. -/
def inside (config : Config) (workspace : Workspace) (options : Options) (selection : Selection) :
    Action Response := do
  let tool := BuildTool.ofConfig config workspace.root
  let targets ← (tool.targets workspace.root (config.queryFlags ++ options.buildFlags)
    selection.files selection.patterns).during .resolveTargets
  let standardLibrary := !selection.standardLibrary.isEmpty
  let files ← (Build.descriptorFiles tool config options.facets
    (options.buildFlags ++ config.buildFlags) targets standardLibrary).during .buildDescriptors
  let loaded ← Action.look fun m =>
    Descriptors.load m.files (files.map (Path.join workspace.binaries))
  return assemble config workspace options standardLibrary targets loaded

/-- Lists the packages that some patterns name, from a directory. Of the failures to discover a
workspace, only the one that there is none leads outside. -/
def list (config : Config) (directory : String) (options : Options) (patterns : List String) :
    Action Response := do
  let selection ← Action.ofExcept (Selection.ofPatterns patterns)
  match ← (Workspace.discover config directory).settled with
  | .ok workspace => inside config workspace options selection
  | .error failure =>
    if failure.cause = .noWorkspace then outside config directory options patterns
    else Action.ofExcept (.error (failure.within .discoverWorkspace))

/-- Answers a request. -/
def answer (config : Config) (directory : String) (r : Request) (patterns : List String) :
    Action Response := do
  let options ← Action.look fun m => .ok (Options.ofRequest m.env r)
  list config directory options patterns

end Listing
end PackageListing
