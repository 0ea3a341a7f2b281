/-
# Patterns

A caller names the packages it wants by patterns. A pattern may ask for a kind of query by a word
before an equality sign: the packages of a file, or what another pattern names. A pattern without
a query names the standard library or goes to the build tool as it is.
-/

import PackageListing.Environment
import PackageListing.Failure

namespace PackageListing

/-- What a pattern asks for. -/
inductive Pattern where
  /-- The packages that a file belongs to. -/
  | file (path : String)
  /-- What the build tool finds under the pattern. -/
  | ordinary (pattern : String)
  /-- The standard library. -/
  | standardLibrary (pattern : String)
  /-- Nothing. -/
  | nothing
  deriving DecidableEq

namespace Pattern

/-- The pattern of the standard library. -/
def standardName : String := "std"

/-- The word of a query that is no longer answered. -/
def retiredQuery : String := "iamashamedtousethedisabledqueryname"

/-- Whether a pattern is the name of the standard library, alone or before a separator. -/
def isStandardLibrary (pattern : String) : Bool :=
  match Text.afterStart? standardName.toList pattern.toList with
  | none => false
  | some [] => true
  | some (c :: _) => c == '/' || c == ':' || c == '@'

/-- What a pattern without a query asks for. -/
def plain (pattern : String) : Pattern :=
  if isStandardLibrary pattern then .standardLibrary pattern else .ordinary pattern

/-- What a pattern asks for. A word of small letters before the first equality sign must be a
known query; any other text before it belongs to the pattern. -/
def parse (pattern : String) : Except Failure Pattern :=
  match Environment.entry? pattern with
  | none => .ok (plain pattern)
  | some (query, value) =>
    if query = "file" then .ok (.file value)
    else if query = "pattern" then .ok (.ordinary value)
    else if query = retiredQuery then .ok .nothing
    else if !query.isEmpty && query.toList.all Char.isLower then
      .error (.of (.unknownQuery query pattern))
    else .ok (plain pattern)

end Pattern

/-- What some patterns ask for, each kind in the order of the patterns. -/
structure Selection where
  /-- The files whose packages are asked for. -/
  files : List String
  /-- The patterns for the build tool. -/
  patterns : List String
  /-- The patterns that name the standard library. -/
  standardLibrary : List String
  deriving DecidableEq, Inhabited

namespace Selection

/-- The selection of parsed patterns. -/
def ofParsed (l : List Pattern) : Selection where
  files := l.filterMap fun | .file path => some path | _ => none
  patterns := l.filterMap fun | .ordinary pattern => some pattern | _ => none
  standardLibrary := l.filterMap fun | .standardLibrary pattern => some pattern | _ => none

/-- What some patterns ask for. -/
def ofPatterns (patterns : List String) : Except Failure Selection :=
  (patterns.mapM Pattern.parse).map ofParsed

/-- Whether nothing is asked for. -/
def isEmpty (s : Selection) : Bool :=
  s.files.isEmpty && s.patterns.isEmpty && s.standardLibrary.isEmpty

end Selection
end PackageListing
