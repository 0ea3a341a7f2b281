/-
# Queries of the build graph

The build tool resolves patterns and files to targets by one query: the union of the patterns and
of a term for each file, which asks for the Go targets of the file's own package that use it. It
answers with labels, one to a line.
-/

import PackageListing.Path
import PackageListing.Text.Utf8

namespace PackageListing
namespace Query

/-- A character inside a quoted word. -/
def escaped (c : Char) : List Char :=
  if c = '"' ∨ c = '\\' then ['\\', c] else [c]

/-- A word between quotes, where a backslash stands before each quote and backslash. -/
def quoted (word : String) : String :=
  String.ofList ('"' :: word.toList.flatMap escaped ++ ['"'])

/-- The term for a file, which is named from the root of the workspace. -/
def fileTerm (root file : String) : String :=
  "kind(\"go_\", same_pkg_direct_rdeps(" ++ quoted (Path.relativeTo root file) ++ "))"

/-- The query for some patterns and files. -/
def expression (root : String) (files patterns : List String) : String :=
  " + ".intercalate (patterns ++ files.map (fileTerm root))

/-- The labels in the answer to a query. A carriage return may stand before a line feed, and empty
lines say nothing. -/
def labels (stdout : List UInt8) : List String :=
  ((((Text.lossyText stdout).splitOn '\n').map Text.dropReturn).filter (!·.isEmpty)).map
    String.ofList

end Query
end PackageListing
