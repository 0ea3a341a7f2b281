/-
# Commands

Two programs share a command line of one form. The driver answers a request about some patterns,
or lists packages without a request. The builder describes one compilation unit or the standard
library. Each offers help on itself and its commands.
-/

import PackageListing.CommandLine.Grammar

namespace PackageListing
namespace CommandLine

/-- What a listing without a request is asked for. -/
structure ListArguments where
  /-- Whether test packages count. -/
  tests : Bool
  /-- Whether export data counts. -/
  exports : Bool
  /-- Whether the packages that others depend on count. -/
  deps : Bool
  /-- Flags for the build. -/
  buildFlags : List String
  /-- The patterns. -/
  patterns : List String
  deriving DecidableEq, Inhabited

/-- What the driver is asked for. -/
inductive DriverCommand where
  /-- The answer to a request about some patterns. -/
  | request (patterns : List String)
  /-- A listing without a request. -/
  | list (arguments : ListArguments)
  deriving DecidableEq

/-- What the builder is told of a compilation unit. -/
structure UnitArguments where
  /-- The label. -/
  id : Option String
  /-- The path in the sources of others. -/
  importPath : Option String
  /-- The path of the package itself. -/
  importMap : Option String
  /-- The export data. -/
  exportFile : Option String
  /-- The sources that the compiler sees. -/
  goSources : List String
  /-- The sources in other languages. -/
  otherSources : List String
  /-- The sources as they were written. -/
  writtenSources : List String
  /-- Which package counts. -/
  testFilter : String
  /-- The archives of the imported packages. -/
  archives : List String
  /-- Further tags that hold. -/
  tags : List String
  /-- The file for the descriptor. -/
  output : Option String
  deriving DecidableEq, Inhabited

/-- What the builder is asked for. -/
inductive BuilderCommand where
  /-- The descriptor of a compilation unit. -/
  | unit (arguments : UnitArguments)
  /-- The descriptors of the standard library of a go tool, in a directory. -/
  | standardLibrary (goTool output : Option String)
  deriving DecidableEq

/-- The flags of the driver that may be spelt with one dash. -/
def driverFlags : List String :=
  ["test", "export", "deps", "buildflag", "help"]

/-- The flags of the builder that may be spelt with one dash. -/
def builderFlags : List String :=
  ["id", "importpath", "importmap", "file", "go_src", "other_src", "orig_src", "testfilter", "arc",
    "tags", "go", "help"]

/-- The words of the driver without a command. -/
def requestGrammar : Grammar :=
  { flags := [], shortFlags := [], words := .always, hasVersion := true }

/-- The words of a listing. -/
def listGrammar : Grammar where
  flags := [.switch "test", .switch "export", .switch "deps",
    { Flag.texts "buildflag" with takesAny := true }]
  shortFlags := []
  words := .afterSeparator
  hasVersion := false

/-- The words of the builder without a command. -/
def bareGrammar : Grammar :=
  { flags := [], shortFlags := [], words := .never, hasVersion := true }

/-- The words of the command for a compilation unit. -/
def unitGrammar : Grammar where
  flags := [.text "id", .text "importpath", .text "importmap", .text "file", .paths "go_src",
    .paths "other_src", .paths "orig_src", .text "testfilter", .texts "arc", .texts "tags"]
  shortFlags := [.path "o"]
  words := .never
  hasVersion := false

/-- The words of the command for the standard library. -/
def standardLibraryGrammar : Grammar where
  flags := [.path "go"]
  shortFlags := [.path "o"]
  words := .never
  hasVersion := false

/-- What the words after `help` ask for: help on the program or on one of its commands. -/
def helpOn (commands : List String) : List String → Refusal
  | [] => .help
  | [command] => if command = "help" || commands.contains command then .help else .usage
  | _ => .usage

/-- A listing with some settings. -/
def ListArguments.ofSettings (s : Settings) : ListArguments where
  tests := s.isSet "test"
  exports := s.isSet "export"
  deps := s.isSet "deps"
  buildFlags := s.all "buildflag"
  patterns := s.words

/-- A compilation unit with some settings. Tags stand between commas. -/
def UnitArguments.ofSettings (s : Settings) : UnitArguments where
  id := s.value? "id"
  importPath := s.value? "importpath"
  importMap := s.value? "importmap"
  exportFile := s.value? "file"
  goSources := s.all "go_src"
  otherSources := s.all "other_src"
  writtenSources := s.all "orig_src"
  testFilter := (s.value? "testfilter").getD "off"
  archives := s.all "arc"
  tags := (s.all "tags").flatMap fun tags => (tags.toList.splitOn ',').map String.ofList
  output := s.value? "o"

/-- The settings before any word. -/
def noSettings : Settings := ⟨[], []⟩

/-- What the words after the name of the driver ask for. A command counts only as the first
word. -/
def DriverCommand.ofWords : List String → Except Refusal DriverCommand
  | "list" :: words => do return .list (.ofSettings (← listGrammar.read noSettings words))
  | "help" :: words => .error (helpOn ["list"] words)
  | words => do return .request (← requestGrammar.read noSettings words).words

/-- What the words after the name of the builder ask for. The builder needs a command. -/
def BuilderCommand.ofWords : List String → Except Refusal BuilderCommand
  | "pkg" :: words => do return .unit (.ofSettings (← unitGrammar.read noSettings words))
  | "stdlib" :: words => do
    let s ← standardLibraryGrammar.read noSettings words
    return .standardLibrary (s.value? "go") (s.value? "o")
  | "help" :: words => .error (helpOn ["pkg", "stdlib"] words)
  | words => do
    let _ ← bareGrammar.read noSettings words
    throw .usage

/-- What a command line asks of the driver. Its first word is the name of the program. -/
def DriverCommand.parse (line : List String) : Except Refusal DriverCommand :=
  ofWords ((normalize driverFlags line).drop 1)

/-- What a command line asks of the builder. Its first word is the name of the program. -/
def BuilderCommand.parse (line : List String) : Except Refusal BuilderCommand :=
  ofWords ((normalize builderFlags line).drop 1)

end CommandLine
end PackageListing
