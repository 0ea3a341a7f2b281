/-
# Environments

An environment gives names to values. Lists of entries `KEY=VALUE` describe changes to one: an
entry ends its name at the first equality sign, a later entry counts before an earlier one, and
an entry without the sign says nothing.
-/

import PackageListing.Names.Map
import PackageListing.Text.Split

namespace PackageListing

/-- The variables of a process. -/
abbrev Environment := Names.Map

namespace Environment

/-- The name and the value of an entry. -/
def entry? (entry : String) : Option (String × String) :=
  (Text.cutAt ['='] entry.toList).map fun p => (String.ofList p.1, String.ofList p.2)

/-- The value that a list of entries gives to a name. -/
def valueIn? (entries : List String) (name : String) : Option String :=
  entries.reverse.findSome? fun e =>
    match entry? e with
    | some (key, value) => if key = name then some value else none
    | none => none

/-- The environment with some variables set, later ones over earlier ones. -/
def overlay (env : Environment) (changes : List (String × String)) : Environment :=
  changes.foldl (fun m e => m.insert e.1 e.2) env

/-- The value of a variable that is set and not empty. -/
def nonempty? (env : Environment) (name : String) : Option String :=
  (env.get? name).filter fun value => !value.isEmpty

end Environment
end PackageListing
