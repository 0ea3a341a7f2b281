/-
# Requests

A client asks for packages by a JSON object. Its mode is a set of bits, one for each kind of
information that the client needs; its environment is a list of entries, of which the last of a
name counts.
-/

import PackageListing.Environment
import PackageListing.Package

namespace PackageListing

/-- The kinds of information that a client needs. -/
structure LoadMode where
  /-- The bits. -/
  bits : UInt64
  deriving DecidableEq, Inhabited

namespace LoadMode

/-- The packages that the listed ones depend on. -/
def deps : LoadMode := ⟨16⟩

/-- The export data. -/
def exportFile : LoadMode := ⟨32⟩

/-- The types. -/
def types : LoadMode := ⟨64⟩

/-- Whether all kinds of `n` are in `m`. -/
def contains (m n : LoadMode) : Bool :=
  m.bits &&& n.bits == n.bits

/-- Whether a kind of `n` is in `m`. -/
def intersects (m n : LoadMode) : Bool :=
  m.bits &&& n.bits != 0

/-- The kinds of `m` and of `n`. -/
def union (m n : LoadMode) : LoadMode :=
  ⟨m.bits ||| n.bits⟩

end LoadMode

/-- What a client asks for. -/
structure Request where
  /-- The command that the client ran. -/
  command : Option String
  /-- The information needed. -/
  mode : LoadMode
  /-- The environment of the build, in entries. -/
  env : List String
  /-- Flags for the build. -/
  buildFlags : List String
  /-- Whether test packages count. -/
  tests : Bool
  /-- Files with other contents than on disk. They are taken note of, and the disk counts. -/
  overlay : Names.Map
  deriving DecidableEq, Inhabited

namespace Request

/-- The value that the environment of the request gives to a name. -/
def envValue? (r : Request) (name : String) : Option String :=
  Environment.valueIn? r.env name

/-- The names of the fields. -/
def fieldNames : List String :=
  ["command", "mode", "env", "build_flags", "tests", "overlay"]

/-- The JSON object of a request. -/
def encode (r : Request) : Json :=
  .ofMembers <|
    Json.memberUnless r.command.isNone "command" (.string (r.command.getD "")) ++
    [("mode", .number (some r.mode.bits.toNat)), ("env", .ofStrings r.env),
      ("build_flags", .ofStrings r.buildFlags), ("tests", .bool r.tests),
      ("overlay", Package.encodeMap r.overlay)]

/-- The request that a JSON value denotes. -/
def decode? (j : Json) : Option Request := do
  let fields ← j.fields? fieldNames
  return {
    command := ← Json.field? fields "command" (some none) (Json.optional? Json.string?)
    mode := ← Json.field? fields "mode" (some ⟨0⟩) fun j => j.word?.map LoadMode.mk
    env := ← Json.field? fields "env" (some []) (Json.list? Json.string?)
    buildFlags := ← Json.field? fields "build_flags" (some []) (Json.list? Json.string?)
    tests := ← Json.field? fields "tests" (some false) Json.bool?
    overlay := ← Json.field? fields "overlay" (some .empty) Package.decodeMap? }

/-- The text of a request. -/
def render (r : Request) : String :=
  r.encode.render

end Request
end PackageListing
