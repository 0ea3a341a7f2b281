/-
# Compilation units

A unit is a set of sources that compile to one package, with the archives of the packages it
imports. Its descriptor tells which of the sources count in a build, and which package stands
behind each import: the one of an archive, or else one of the standard library. Where a unit
mixes a package with its external tests, a filter keeps one of the two.
-/

import PackageListing.Package
import PackageListing.Source.Metadata

namespace PackageListing

/-- Which package of a unit with tests counts. -/
inductive TestFilter where
  /-- Both. -/
  | off
  /-- The package of the tests. -/
  | only
  /-- The package that is tested. -/
  | exclude
  deriving DecidableEq, Inhabited

namespace TestFilter

/-- What the name of a package of tests ends in. -/
def testEnding : String := "_test"

/-- The filter of a name. -/
def parse (text : String) : Except Failure TestFilter :=
  if text = "off" then .ok .off
  else if text = "only" then .ok .only
  else if text = "exclude" then .ok .exclude
  else .error (.of (.unknownTestFilter text))

/-- Whether a package is one of tests. -/
def isTestPackage (name : String) : Bool :=
  testEnding.toList.isSuffixOf name.toList

/-- Whether the filter keeps a package. -/
def accepts : TestFilter → (name : String) → Bool
  | off, _ => true
  | only, name => isTestPackage name
  | exclude, name => !isTestPackage name

end TestFilter

/-- The archive of a package that a unit imports. -/
structure Archive where
  /-- The label of the package. -/
  label : String
  /-- The path in the sources. -/
  importPath : String
  /-- The path of the package itself. -/
  importMap : String
  /-- The file. -/
  file : String
  deriving DecidableEq, Inhabited

namespace Archive

/-- The archive that four parts between equality signs describe. -/
def parse (text : String) : Except Failure Archive :=
  match (text.toList.splitOn '=').map String.ofList with
  | [label, importPath, importMap, file] => .ok ⟨label, importPath, importMap, file⟩
  | _ => .error (.of (.malformedArchive text))

end Archive

/-- A compilation unit. -/
structure CompilationUnit where
  /-- The label. -/
  id : String
  /-- The path in the sources of others. -/
  importPath : String
  /-- The path of the package itself. -/
  importMap : String
  /-- The export data. -/
  exportFile : Option String
  /-- The sources that the compiler sees. -/
  goSources : List String
  /-- The sources in other languages. -/
  otherSources : List String
  /-- The sources as they were written. -/
  writtenSources : List String
  /-- Which package counts. -/
  testFilter : TestFilter
  /-- The archives of the imported packages. -/
  archives : List Archive
  deriving DecidableEq, Inhabited

namespace CompilationUnit

/-- The name of a package without sources. -/
def emptyName : String := "empty"

/-- The identifier of the package behind an import: the label of the last archive with its path,
or an identifier of the standard library, which begins with `standardStart`. -/
def packageBehind (standardStart : String) (archives : List Archive) (path : String) : String :=
  match archives.reverse.find? fun a => a.importPath == path with
  | some a => a.label
  | none => standardStart ++ path

/-- The files among some sources that count. -/
def kept (filter : TestFilter) (l : List Source.Metadata) : List Source.Metadata :=
  l.filter fun m => m.matched && filter.accepts m.package

/-- The name that the first of some sources with a name declares. -/
def nameOf (l : List Source.Metadata) : String :=
  ((l.map (·.package)).find? fun name => !name.isEmpty).getD emptyName

/-- The imports of some sources, each with the identifier of the package behind it. -/
def importsOf (standardStart : String) (archives : List Archive) (l : List Source.Metadata) :
    Names.Map :=
  .ofList (((l.flatMap (·.imports)).filter (· != "C")).map fun path =>
    (path, packageBehind standardStart archives path))

/-- The descriptor of a unit. -/
def describe (fs : FileSystem) (ctx : Constraint.Context) (standardStart : String)
    (u : CompilationUnit) (parse : Source.Parser := Syntax.Tree.ofSource?) :
    Except Failure Package := do
  let written ← u.writtenSources.mapM fun file => Source.Metadata.read fs ctx file false parse
  let other ← u.otherSources.mapM fun file => Source.Metadata.read fs ctx file false parse
  let compiled ← u.goSources.mapM fun file => Source.Metadata.read fs ctx file true parse
  let compiled := kept u.testFilter compiled
  return {
    id := u.id
    name := nameOf compiled
    path := u.importMap
    problems := []
    goFiles := (kept u.testFilter written).map (·.file)
    compiledGoFiles := compiled.map (·.file)
    otherFiles := (other.filter (·.matched)).map (·.file)
    exportFile := u.exportFile
    imports := importsOf standardStart u.archives compiled }

end CompilationUnit
end PackageListing
