/-
# What a file contributes to its package

A file counts in a build if its name and its header admit the build. Of a Go file that counts,
the package name and the imports are read. One that imports C code counts only where the build
may use C code, or where the file is the output of the preprocessor for C code already; the tag
`cgo` holds for such output in any build.
-/

import PackageListing.Constraint.FileName
import PackageListing.Constraint.Header
import PackageListing.Failure
import PackageListing.Source.Summary

namespace PackageListing
namespace Source

/-- What is known of a file. -/
structure Metadata where
  /-- The path of the file. -/
  file : String
  /-- Whether it counts in the build. -/
  matched : Bool
  /-- The declared package, for a Go file that counts. -/
  package : String
  /-- The imported paths, for a Go file that counts. -/
  imports : List String
  /-- Whether it imports C code. -/
  isCgo : Bool
  deriving DecidableEq, Inhabited

namespace Metadata

/-- A file that does not count. -/
def unmatched (file : String) : Metadata :=
  { file := file, matched := false, package := "", imports := [], isCgo := false }

/-- A file that counts and is no Go file. -/
def other (file : String) : Metadata :=
  { unmatched file with matched := true }

/-- A Go file, as far as its name and header admit it. -/
def ofSummary (file : String) (cgoAllowed : Bool) (s : Summary) : Metadata :=
  let isCgo := s.imports.contains "C"
  if isCgo && !cgoAllowed then { unmatched file with isCgo := true }
  else { file := file, matched := true, package := s.package, imports := s.imports, isCgo := isCgo }

/-- Whether the header of a source admits a build. -/
def headerHolds (ctx : Constraint.Context) (file : String) (source : List Char) :
    Except Failure Bool :=
  match Constraint.Header.ofSource? source with
  | none => .error ⟨[.readConstraints file], .repeatedConstraint⟩
  | some header =>
    match header.eval ctx with
    | .ok holds => .ok holds
    | .error (expression, defect) =>
      .error ⟨[.evaluateConstraints file], .malformedConstraint expression defect⟩

/-- Whether a file name has an extension. -/
def hasExtension (name ext : String) : Bool :=
  Constraint.FileName.extension? name.toList == some ext.toList

/-- What a source with a matching name contributes. The context is that of the header. -/
def ofSource (ctx : Constraint.Context) (file name : String) (source : List Char)
    (parse : Parser) : Except Failure Metadata := do
  if !(← headerHolds ctx file source) then return unmatched file
  if !hasExtension name "go" then return other file
  match Summary.ofSource? source parse with
  | none =>
    let cause := if (parse source).isNone then Cause.noTree else .noPackageClause
    throw ⟨[.readSource file], cause⟩
  | some s => return ofSummary file ctx.cgo s

/-- Reads a file for a build. -/
def read (fs : FileSystem) (ctx : Constraint.Context) (file : String) (preprocessed : Bool)
    (parse : Parser := Syntax.Tree.ofSource?) : Except Failure Metadata := do
  match Path.fileName? file with
  | none => throw (.of (.notASource file))
  | some name =>
    if !Constraint.FileName.isMatch ctx name then return unmatched file
    if hasExtension name "syso" then return other file
    let bytes ← Failure.duringIo (.read file) (fs.read file)
    let ctx := if preprocessed then ctx.withCgo else ctx
    ofSource ctx file name (Text.lossyText bytes) parse

end Metadata
end Source
end PackageListing
