/-
# Packages that the go tool lists

The go tool prints a stream of JSON objects, one for each package. Files are named there relative
to the directory of the package, imports by the path in the source, and a map gives the path
behind those that mean another package than they say. `toPackage` makes a descriptor of it.
-/

import PackageListing.Package
import PackageListing.Path

namespace PackageListing

/-- A complaint of the go tool. -/
structure Complaint where
  /-- The place. -/
  position : String
  /-- What is wrong. -/
  message : String
  deriving DecidableEq, Inhabited

namespace Complaint

/-- The complaint that a JSON value denotes. -/
def decode? (j : Json) : Option Complaint := do
  let fields ← j.fields? ["Pos", "Err"]
  return {
    position := ← Json.field? fields "Pos" (some "") Json.string?
    message := ← Json.field? fields "Err" (some "") Json.string? }

/-- The problem of a package that a complaint tells of. -/
def toProblem (c : Complaint) : Problem :=
  { position := c.position, message := c.message, kind := Problem.listKind }

end Complaint

/-- A package as the go tool lists it. -/
structure ListedPackage where
  /-- The directory of the files. -/
  directory : String
  /-- The import path, perhaps with the mark of a test variant. -/
  importPath : String
  /-- The declared name. -/
  name : String
  /-- The export data, or nothing in an empty text. -/
  exportFile : String
  /-- The sources that need no preprocessing. -/
  goFiles : List String
  /-- The sources that import C code. -/
  cgoFiles : List String
  /-- The sources that the compiler sees. -/
  compiledGoFiles : List String
  /-- The sources in other languages, kind by kind. -/
  otherFiles : List String
  /-- The paths that the sources import. -/
  imports : List String
  /-- The import path behind some paths in the sources. -/
  importMap : Names.Map
  /-- Whether the package is there only because another depends on it. -/
  depOnly : Bool
  /-- What is wrong with the package. -/
  complaint : Option Complaint
  /-- What is wrong with the packages it depends on. -/
  depComplaints : List Complaint
  deriving DecidableEq, Inhabited

namespace ListedPackage

/-- The names of the fields with sources in other languages, in the order of their kinds. -/
def otherFields : List String :=
  ["CFiles", "CXXFiles", "MFiles", "HFiles", "SFiles", "SysoFiles"]

/-- The names of the fields. -/
def fieldNames : List String :=
  ["Dir", "ImportPath", "Name", "Export", "GoFiles", "CgoFiles", "CompiledGoFiles"] ++
    otherFields ++ ["Imports", "ImportMap", "DepOnly", "Error", "DepsErrors"]

/-- The package that a JSON value denotes. -/
def decode? (j : Json) : Option ListedPackage := do
  let fields ← j.fields? fieldNames
  let text (name : String) := Json.field? fields name (some "") Json.string?
  let texts (name : String) := Json.field? fields name (some []) (Json.list? Json.string?)
  return {
    directory := ← text "Dir"
    importPath := ← text "ImportPath"
    name := ← text "Name"
    exportFile := ← text "Export"
    goFiles := ← texts "GoFiles"
    cgoFiles := ← texts "CgoFiles"
    compiledGoFiles := ← texts "CompiledGoFiles"
    otherFiles := (← otherFields.mapM texts).flatten
    imports := ← texts "Imports"
    importMap := ← Json.field? fields "ImportMap" (some .empty) Package.decodeMap?
    depOnly := ← Json.field? fields "DepOnly" (some false) Json.bool?
    complaint := ← Json.field? fields "Error" (some none) (Json.optional? Complaint.decode?)
    depComplaints := ← Json.field? fields "DepsErrors" (some []) (Json.list? Complaint.decode?) }

/-- The packages that the output of the go tool lists. -/
def ofOutput? (stdout : List UInt8) : Option (List ListedPackage) := do
  (← Json.streamOfBytes? stdout).mapM decode?

/-- An import path without the mark of a test variant, which follows a blank and a bracket. -/
def plainPath (importPath : String) : String :=
  match Text.cutAt [' ', '['] importPath.toList with
  | some (path, _) => String.ofList path
  | none => importPath

/-- The package behind each imported path. Each entry of the import map takes the path behind it
out and puts the path in the sources in; `C` is no package. -/
def resolve (imports : List String) (importMap : List (String × String)) : Names.Map :=
  let plain := Names.Map.ofList (imports.map fun path => (path, path))
  (importMap.foldl (fun m e => (m.erase e.2).insert e.1 e.2) plain).erase "C"

/-- The same map with a text before each value. -/
def labelled (label : String) (m : Names.Map) : Names.Map :=
  .ofList (m.entries.map fun e => (e.1, label ++ e.2))

/-- The descriptor of a listed package, with `label` before each identifier. -/
def toPackage (label : String) (l : ListedPackage) : Package :=
  let inDirectory (files : List String) : List String := files.map (Path.join l.directory)
  let goFiles := inDirectory (l.goFiles ++ l.cgoFiles)
  { id := label ++ l.importPath
    name := l.name
    path := plainPath l.importPath
    problems := (l.complaint.toList ++ l.depComplaints).map Complaint.toProblem
    goFiles := goFiles
    compiledGoFiles :=
      if l.compiledGoFiles.isEmpty then goFiles else inDirectory l.compiledGoFiles
    otherFiles := inDirectory l.otherFiles
    exportFile := if l.exportFile.isEmpty then none else some l.exportFile
    imports := labelled label (resolve l.imports l.importMap.entries) }

end ListedPackage
end PackageListing
