/-
# Responses

The answer to a request: the packages found, the identifiers of those that were asked for, and
the sizes that types have on the target.
-/

import PackageListing.Package

namespace PackageListing

/-- The sizes of types on a target. -/
structure Sizes where
  /-- The bytes of a word. -/
  wordSize : Int64
  /-- The largest alignment. -/
  maxAlign : Int64
  deriving DecidableEq, Inhabited

namespace Sizes

/-- The architectures with words of four bytes. -/
def shortArchitectures : List String :=
  ["386", "arm", "armbe", "mips", "mipsle", "ppc", "s390", "sparc"]

/-- The sizes on an architecture. -/
def ofArchitecture (architecture : String) : Sizes :=
  if shortArchitectures.contains architecture then ⟨4, 4⟩ else ⟨8, 8⟩

/-- The names of the fields. -/
def fieldNames : List String :=
  ["WordSize", "MaxAlign"]

/-- The JSON object of sizes. -/
def encode (s : Sizes) : Json :=
  .ofMembers [("WordSize", .number s.wordSize.toInt), ("MaxAlign", .number s.maxAlign.toInt)]

/-- A size is a number of 64 bits. -/
def size? (j : Json) : Option Int64 :=
  (j.integer? Int64.minValue.toInt Int64.maxValue.toInt).map Int64.ofInt

/-- The sizes that a JSON value denotes. -/
def decode? (j : Json) : Option Sizes := do
  let fields ← j.fields? fieldNames
  return {
    wordSize := ← Json.field? fields "WordSize" none size?
    maxAlign := ← Json.field? fields "MaxAlign" none size? }

end Sizes

/-- The answer to a request. -/
structure Response where
  /-- The sizes of types. -/
  sizes : Option Sizes
  /-- The identifiers of the packages asked for. -/
  roots : List String
  /-- The packages. -/
  packages : List Package
  deriving DecidableEq, Inhabited

namespace Response

/-- The names of the fields. -/
def fieldNames : List String :=
  ["Sizes", "Roots", "Packages"]

/-- The JSON object of a response. -/
def encode (r : Response) : Json :=
  .ofMembers <|
    (match r.sizes with
      | some s => [("Sizes", s.encode)]
      | none => []) ++
    Json.memberUnless r.roots.isEmpty "Roots" (.ofStrings r.roots) ++
    [("Packages", .array (r.packages.map Package.encode))]

/-- The response that a JSON value denotes. -/
def decode? (j : Json) : Option Response := do
  let fields ← j.fields? fieldNames
  return {
    sizes := ← Json.field? fields "Sizes" (some none) (Json.optional? Sizes.decode?)
    roots := ← Json.field? fields "Roots" (some []) (Json.list? Json.string?)
    packages := ← Json.field? fields "Packages" (some []) (Json.list? Package.decode?) }

/-- The text of a response. -/
def render (r : Response) : String :=
  r.encode.render

end Response
end PackageListing
