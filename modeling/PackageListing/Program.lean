/-
# The programs

The driver and the builder are programs: from a command line, the variables and files of a
machine, and perhaps a request on standard input, to what they print and the status they end
with. A failure is told in one line after the name of the program.
-/

import PackageListing.CommandLine.Commands
import PackageListing.CompilationUnit
import PackageListing.Listing
import PackageListing.StandardLibrary

namespace PackageListing
namespace Program

/-- The version of the programs. -/
def version : String := "0.4.0"

/-- How a program ends. -/
inductive Ending where
  /-- It does not carry out the command line. -/
  | refused (reason : CommandLine.Refusal)
  /-- It fails. -/
  | failed (failure : Failure)
  /-- It succeeds and prints a text. -/
  | done (stdout : String)
  deriving DecidableEq

namespace Ending

/-- The status that a program ends with. -/
def status : Ending → UInt8
  | refused .usage => 2
  | refused _ => 0
  | failed _ => 1
  | done _ => 0

/-- What a program prints on standard output. -/
def stdout (name usage : String) : Ending → String
  | refused .help => usage
  | refused .version => name ++ " " ++ version ++ "\n"
  | done text => text
  | _ => ""

/-- What a program prints on standard error. -/
def stderr (name usage : String) : Ending → String
  | refused .usage => usage
  | failed failure => name ++ ": " ++ failure.text ++ "\n"
  | _ => ""

end Ending

/-- How the run of an action ends, if it prints what it gives. -/
def finish (a : Action String) (m : Machine) : Ending × Machine :=
  match a m with
  | (.ok text, m) => (.done text, m)
  | (.error failure, m) => (.failed failure, m)

/-- The name of the driver. -/
def driverName : String := "gopackagesdriver"

/-- The name of the builder. -/
def builderName : String := "gopkg"

/-- The request on standard input. -/
def readRequest (stdin : List UInt8) : Except Failure Request :=
  match (Json.ofBytes? stdin).bind Request.decode? with
  | some r => .ok r
  | none => .error (.of .unreadableRequest)

/-- How to list without a request, in a process with some variables. -/
def listOptions (env : Environment) (a : CommandLine.ListArguments) : Listing.Options where
  facets := ⟨a.deps, a.exports, a.tests⟩
  buildFlags := a.buildFlags
  env := []
  architecture := Listing.defaultArchitecture env

/-- Carries out a command of the driver. -/
def drive (command : CommandLine.DriverCommand) (stdin : List UInt8) : Action String := do
  let m ← Action.look fun m => .ok m
  let config := Config.ofLookup m.env.get?
  let directory := m.files.workingDirectory
  let response ←
    match command with
    | .list arguments =>
      Listing.list config directory (listOptions m.env arguments) arguments.patterns
    | .request patterns => do
      let r ← Action.ofExcept (readRequest stdin)
      Listing.answer config directory r patterns
  return response.render ++ "\n"

/-- Runs the driver. -/
def driver (line : List String) (stdin : List UInt8) (m : Machine) : Ending × Machine :=
  match CommandLine.DriverCommand.parse line with
  | .error reason => (.refused reason, m)
  | .ok command => finish (drive command stdin) m

/-- The value of a flag that is needed. -/
def need (flag : String) (value : Option String) : Except Failure String :=
  match value with
  | some value => .ok value
  | none => .error (.of (.missingFlag flag))

/-- The compilation unit that the arguments tell of, and the file for its descriptor. -/
def unitOf (a : CommandLine.UnitArguments) : Except Failure (CompilationUnit × String) := do
  let id ← need "id" a.id
  let importPath ← need "importpath" a.importPath
  let importMap ← need "importmap" a.importMap
  let output ← need "o" a.output
  let testFilter ← TestFilter.parse a.testFilter
  let archives ← a.archives.mapM Archive.parse
  return ({
    id := id
    importPath := importPath
    importMap := importMap
    exportFile := a.exportFile
    goSources := a.goSources
    otherSources := a.otherSources
    writtenSources := a.writtenSources
    testFilter := testFilter
    archives := archives }, output)

/-- The files after the descriptor of a unit is written. -/
def writeUnit (ctx : Constraint.Context) (standardStart : String) (u : CompilationUnit)
    (output : String) (fs : FileSystem) : Except Failure FileSystem := do
  Descriptors.write fs (← u.describe fs ctx standardStart) output

/-- Carries out a command of the builder. -/
def build (command : CommandLine.BuilderCommand) : Action String := do
  let m ← Action.look fun m => .ok m
  let config := Config.ofLookup m.env.get?
  match command with
  | .unit arguments =>
    let (u, output) ← Action.ofExcept (unitOf arguments)
    let ctx := (Constraint.Context.ofLookup m.env.get?).withTags arguments.tags
    (Action.change (writeUnit ctx config.standardStart u output)).during (.describeUnit u.id)
  | .standardLibrary goTool output =>
    let goTool ← Action.ofExcept (need "go" goTool)
    let output ← Action.ofExcept (need "o" output)
    let _ ← StandardLibrary.describe goTool output config.standardStart
  return ""

/-- Runs the builder. Files of parameters are read before anything else. -/
def builder (line : List String) (m : Machine) : Ending × Machine :=
  match Failure.during .expandParameters (CommandLine.expand m.files line) with
  | .error failure => (.failed failure, m)
  | .ok line =>
    match CommandLine.BuilderCommand.parse line with
    | .error reason => (.refused reason, m)
    | .ok command => finish (build command) m

end Program
end PackageListing
