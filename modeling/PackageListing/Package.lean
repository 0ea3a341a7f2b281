/-
# Package descriptors

A descriptor says what a listing knows of one compilation unit. Its JSON object leaves out what
is empty, except for the identifier; reading puts the empty values back.
-/

import PackageListing.Json.Reader
import PackageListing.Json.Writer
import PackageListing.Names.Map

namespace PackageListing

/-- Something wrong with a package. -/
structure Problem where
  /-- The place, as the finder writes it. -/
  position : String
  /-- What is wrong. -/
  message : String
  /-- Who found it, by number. -/
  kind : Int32
  deriving DecidableEq, Inhabited

namespace Problem

/-- The kind of the problems that the listing tool reports. -/
def listKind : Int32 := 1

/-- The names of the fields. -/
def fieldNames : List String :=
  ["Pos", "Msg", "Kind"]

/-- The JSON object of a problem. -/
def encode (p : Problem) : Json :=
  .ofMembers
    [("Pos", .string p.position), ("Msg", .string p.message), ("Kind", .number p.kind.toInt)]

/-- A kind is a number of 32 bits. -/
def kind? (j : Json) : Option Int32 :=
  (j.integer? Int32.minValue.toInt Int32.maxValue.toInt).map Int32.ofInt

/-- The problem that a JSON value denotes. -/
def decode? (j : Json) : Option Problem := do
  let fields ← j.fields? fieldNames
  return {
    position := ← Json.field? fields "Pos" (some "") Json.string?
    message := ← Json.field? fields "Msg" (some "") Json.string?
    kind := ← Json.field? fields "Kind" (some 0) kind? }

end Problem

/-- What is known of a compilation unit. -/
structure Package where
  /-- The identifier, which the imports of others refer to. -/
  id : String
  /-- The declared name. -/
  name : String
  /-- The import path. -/
  path : String
  /-- What is wrong with the package. -/
  problems : List Problem
  /-- The sources as they were written. -/
  goFiles : List String
  /-- The sources that the compiler sees. -/
  compiledGoFiles : List String
  /-- The sources in other languages. -/
  otherFiles : List String
  /-- The export data. -/
  exportFile : Option String
  /-- The identifier of the package behind each import path. -/
  imports : Names.Map
  deriving DecidableEq, Inhabited

namespace Package

/-- The names of the fields. -/
def fieldNames : List String :=
  ["ID", "Name", "PkgPath", "Errors", "GoFiles", "CompiledGoFiles", "OtherFiles", "ExportFile",
    "Imports"]

/-- The JSON object of a map. -/
def encodeMap (m : Names.Map) : Json :=
  .ofMembers (m.entries.map fun e => (e.1, .string e.2))

/-- The map that a JSON object denotes. Of two members with one key the later counts. -/
def decodeMap? (j : Json) : Option Names.Map :=
  j.strings?.map Names.Map.ofList

/-- The JSON object of a package. -/
def encode (p : Package) : Json :=
  .ofMembers <|
    [("ID", .string p.id)] ++
    Json.memberUnless p.name.isEmpty "Name" (.string p.name) ++
    Json.memberUnless p.path.isEmpty "PkgPath" (.string p.path) ++
    Json.memberUnless p.problems.isEmpty "Errors" (.array (p.problems.map Problem.encode)) ++
    Json.memberUnless p.goFiles.isEmpty "GoFiles" (.ofStrings p.goFiles) ++
    Json.memberUnless p.compiledGoFiles.isEmpty "CompiledGoFiles" (.ofStrings p.compiledGoFiles) ++
    Json.memberUnless p.otherFiles.isEmpty "OtherFiles" (.ofStrings p.otherFiles) ++
    Json.memberUnless p.exportFile.isNone "ExportFile" (.string (p.exportFile.getD "")) ++
    Json.memberUnless p.imports.isEmpty "Imports" (encodeMap p.imports)

/-- The package that a JSON value denotes. -/
def decode? (j : Json) : Option Package := do
  let fields ← j.fields? fieldNames
  return {
    id := ← Json.field? fields "ID" none Json.string?
    name := ← Json.field? fields "Name" (some "") Json.string?
    path := ← Json.field? fields "PkgPath" (some "") Json.string?
    problems := ← Json.field? fields "Errors" (some []) (Json.list? Problem.decode?)
    goFiles := ← Json.field? fields "GoFiles" (some []) (Json.list? Json.string?)
    compiledGoFiles := ← Json.field? fields "CompiledGoFiles" (some []) (Json.list? Json.string?)
    otherFiles := ← Json.field? fields "OtherFiles" (some []) (Json.list? Json.string?)
    exportFile := ← Json.field? fields "ExportFile" (some none) (Json.optional? Json.string?)
    imports := ← Json.field? fields "Imports" (some .empty) decodeMap? }

/-- The text of a package. -/
def render (p : Package) : String :=
  p.encode.render

end Package
end PackageListing
