/-
# The go tool

Outside workspaces the go tool lists packages, and it lists the standard library for the build.
It runs with some variables set, the one last that keeps it from asking for a listing itself.
-/

import PackageListing.Build.Harvest
import PackageListing.ImportGraph
import PackageListing.ListedPackage
import PackageListing.Machine

namespace PackageListing

/-- How to start the go tool. -/
structure GoTool where
  /-- The program. -/
  program : String
  /-- The working directory. -/
  directory : String
  /-- The variables to set, later ones over earlier ones. -/
  changes : List (String × String)
  /-- The flags of the listing. -/
  flags : List String
  deriving DecidableEq, Inhabited

namespace GoTool

/-- The flags of every listing. -/
def commonFlags : List String :=
  ["-e", "-json", "-compiled=true"]

/-- The variable that names the program to ask for a listing, with the value for none. -/
def driverOff : String × String :=
  ("GOPACKAGESDRIVER", "off")

/-- The packages in the output of a listing. -/
def decode (stdout : List UInt8) : Except Failure (List ListedPackage) :=
  match ListedPackage.ofOutput? stdout with
  | some l => .ok l
  | none => .error ⟨[.decodeListing], .malformedJson⟩

/-- Lists the packages of some patterns. -/
def list (tool : GoTool) (patterns : List String) : Action (List ListedPackage) := do
  let stdout ← Action.runTool tool.program "list"
    (commonFlags ++ tool.flags ++ ["--"] ++ patterns) tool.directory
    (tool.changes ++ [driverOff])
  Action.ofExcept (decode stdout)

/-- The flags that some facets need. Export data needs the dependencies compiled, too. -/
def facetFlags (facets : Build.Facets) : List String :=
  (if facets.tests then ["-test"] else []) ++
    if facets.exports then ["-export", "-deps"] else if facets.deps then ["-deps"] else []

/-- The response that a listing comes to. -/
def respond (listed : List ListedPackage) : Response :=
  let described := listed.map fun l => (l.depOnly, l.toPackage "")
  let roots := (described.filter fun d => !d.1).map fun d => d.2.id
  ImportGraph.respond roots (described.map Prod.snd)

/-- Answers with what the go tool lists. -/
def answer (tool : GoTool) (facets : Build.Facets) (buildFlags patterns : List String) :
    Action Response := do
  let tool := { tool with flags := tool.flags ++ buildFlags ++ facetFlags facets }
  return respond (← (tool.list patterns).during .listWithoutWorkspace)

end GoTool
end PackageListing
