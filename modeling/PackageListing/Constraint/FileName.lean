/-
# Constraints in file names

The end of a file's stem may limit it to an operating system, an architecture, or both:
`poll_linux.go`, `asm_arm64.s`, `sys_windows_amd64.go`. A last piece `test` does not count, nor
does what stands before the first underscore.
-/

import PackageListing.Constraint.Context
import PackageListing.Text.Split

namespace PackageListing
namespace Constraint
namespace FileName

/-- The extensions of the files that a build reads at all. -/
def extensions : List String :=
  ["go", "c", "cc", "cxx", "cpp", "m", "s", "S", "sx", "h", "hh", "hpp", "hxx", "f", "F", "f90",
    "swig", "swigcxx", "syso"]

/-- The text after the last full stop. -/
def extension? (name : List Char) : Option (List Char) :=
  if name.contains '.' then some (name.reverse.takeWhile (· != '.')).reverse else none

/-- The text before the first full stop. -/
def stem (name : List Char) : List Char :=
  name.takeWhile (· != '.')

/-- Hidden files and files with an unknown extension are never read. -/
def isRead (name : List Char) : Bool :=
  name.head? != some '_' && name.head? != some '.' &&
    match extension? name with
    | some ext => extensions.contains (String.ofList ext)
    | none => false

/-- The pieces of a stem after its first underscore, less a last piece `test`. -/
def platformPieces (stem : List Char) : List String :=
  let pieces := ((stem.dropWhile (· != '_')).drop 1).splitOn '_'
  let pieces := if stem.contains '_' then pieces.map String.ofList else []
  if pieces.getLast? = some "test" then pieces.dropLast else pieces

/-- Whether the last pieces admit the build: both tags of an operating system followed by an
architecture, else the one tag of a last piece that is either, else always. -/
def platformHolds (ctx : Context) (pieces : List String) : Bool :=
  match pieces.reverse with
  | last :: before :: _ =>
    if systems.contains before && architectures.contains last then
      ctx.holds before && ctx.holds last
    else if systems.contains last || architectures.contains last then ctx.holds last
    else true
  | [last] =>
    if systems.contains last || architectures.contains last then ctx.holds last else true
  | [] => true

/-- Whether a build reads the file of this name. -/
def isMatch (ctx : Context) (name : String) : Bool :=
  isRead name.toList && platformHolds ctx (platformPieces (stem name.toList))

end FileName
end Constraint
end PackageListing
