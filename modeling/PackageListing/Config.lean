/-
# Configuration

Environment variables say which tools to start, with which flags, and in which repository the
rules of the build live. The rest follows: the file of the aspect, the target that describes the
standard library, and what the identifiers of its packages begin with.
-/

import PackageListing.Text.Split

namespace PackageListing

/-- Which tools to start and how. -/
structure Config where
  /-- The build tool. -/
  buildTool : String
  /-- Flags for every command of the build tool. -/
  commonFlags : List String
  /-- Further flags for queries. -/
  queryFlags : List String
  /-- Further flags for builds. -/
  buildFlags : List String
  /-- The repository of the rules. -/
  rulesRepository : String
  /-- The go tool. -/
  goTool : String
  deriving DecidableEq, Inhabited

namespace Config

/-- The value of a variable that is set and not blank. -/
def unlessBlank (fallback : String) (value : Option String) : String :=
  match value with
  | none => fallback
  | some value => if (Text.trim value.toList).isEmpty then fallback else value

/-- The flags in a variable, between white space. -/
def flags (value : Option String) : List String :=
  (Text.words (value.getD "").toList).map String.ofList

/-- The name of a repository, which begins with its sign. -/
def repository (fallback : String) (value : Option String) : String :=
  match Text.trim (value.getD "").toList with
  | [] => fallback
  | '@' :: name => String.ofList ('@' :: name)
  | name => String.ofList ('@' :: name)

/-- The configuration that environment variables describe. -/
def ofLookup (lookup : String → Option String) : Config where
  buildTool := unlessBlank "bazel" (lookup "GOPACKAGESDRIVER_BAZEL")
  commonFlags := flags (lookup "GOPACKAGESDRIVER_BAZEL_FLAGS")
  queryFlags := flags (lookup "GOPACKAGESDRIVER_BAZEL_QUERY_FLAGS")
  buildFlags := flags (lookup "GOPACKAGESDRIVER_BAZEL_BUILD_FLAGS")
  rulesRepository :=
    repository "@io_bazel_rules_go" (lookup "GOPACKAGESDRIVER_RULES_GO_REPOSITORY_NAME")
  goTool := unlessBlank "go" (lookup "GOPACKAGESDRIVER_GO")

/-- The file of the aspect. -/
def aspectFile (c : Config) : String :=
  c.rulesRepository ++ "//go/tools/gopackagesdriver:aspect.bzl"

/-- The target that describes the standard library. -/
def standardTarget (c : Config) : String :=
  c.rulesRepository ++ "//go/tools/gopackagesdriver:stdlib"

/-- What the identifiers of the standard library begin with. -/
def standardStart (c : Config) : String :=
  c.rulesRepository ++ "//:stdlib%"

/-- The identifier of a package of the standard library. -/
def standardId (c : Config) (path : String) : String :=
  c.standardStart ++ path

end Config
end PackageListing
