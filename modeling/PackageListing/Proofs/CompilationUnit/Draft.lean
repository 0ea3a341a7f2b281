/-
# Drafting the descriptor of a compilation unit

The descriptor of a unit may be drafted source by source (`CompilationUnit.draft`): a source that
counts is added to a list, its name is taken while there is none, and each of its imports is put
into the map, over one that is there already. A source that cannot be read ends the draft.

What a row of sources adds is what is kept of them (`CompilationUnit.foldl_takeWritten`,
`CompilationUnit.foldl_takeOther`, `CompilationUnit.foldl_takeCompiled`). The name that is taken
is the first one that is not empty (`CompilationUnit.foldl_takeName`), and the package behind a
path the one of the last archive with it (`CompilationUnit.getD_behind`). So the draft ends as the
descriptor, or with the same failure (`CompilationUnit.draft_eq`).
-/

import PackageListing.CompilationUnit
import PackageListing.Proofs.Names.Map
import PackageListing.Result

namespace PackageListing
namespace CompilationUnit

open Source (Metadata Parser)

/-! ### Taking up what is read -/

/-- The packages behind the paths of archives; of two archives with one path the later counts. -/
def behind (archives : List Archive) : Names.Map :=
  .ofList (archives.map fun a => (a.importPath, a.label))

/-- Takes up a source as it was written. -/
def takeWritten (filter : TestFilter) (p : Package) (m : Metadata) : Package :=
  if m.matched && filter.accepts m.package then { p with goFiles := p.goFiles ++ [m.file] } else p

/-- Takes up a source in another language. -/
def takeOther (p : Package) (m : Metadata) : Package :=
  if m.matched then { p with otherFiles := p.otherFiles ++ [m.file] } else p

/-- Takes a name where there is none yet. -/
def takeName (name declared : String) : String :=
  if name.isEmpty then declared else name

/-- Takes up an import. -/
def takeImport (standardStart : String) (archives : List Archive) (imports : Names.Map)
    (path : String) : Names.Map :=
  if path = "C" then imports
  else imports.insert path (((behind archives).get? path).getD (standardStart ++ path))

/-- Takes up a source that the compiler sees. -/
def takeCompiled (standardStart : String) (filter : TestFilter) (archives : List Archive)
    (p : Package) (m : Metadata) : Package :=
  if m.matched && filter.accepts m.package then
    { p with
      compiledGoFiles := p.compiledGoFiles ++ [m.file]
      name := takeName p.name m.package
      imports := m.imports.foldl (takeImport standardStart archives) p.imports }
  else p

/-- The descriptor of a unit before its sources are read. -/
def blank (u : CompilationUnit) : Package :=
  { (default : Package) with id := u.id, path := u.importMap, exportFile := u.exportFile }

/-- Gives the descriptor a name, where no source declares one. -/
def finish (p : Package) : Package :=
  { p with name := takeName p.name emptyName }

/-- Drafts the descriptor of a unit, source by source. -/
def draft (fs : FileSystem) (ctx : Constraint.Context) (standardStart : String)
    (u : CompilationUnit) (parse : Parser) : Except Failure Package := do
  let p ← u.writtenSources.foldlM
    (fun p file => takeWritten u.testFilter p <$> Metadata.read fs ctx file false parse) u.blank
  let p ← u.otherSources.foldlM
    (fun p file => takeOther p <$> Metadata.read fs ctx file false parse) p
  let p ← u.goSources.foldlM
    (fun p file => takeCompiled standardStart u.testFilter u.archives p <$>
      Metadata.read fs ctx file true parse) p
  return finish p

/-! ### What a row of sources adds -/

variable {standardStart : String} {archives : List Archive}

theorem foldl_takeWritten (filter : TestFilter) (l : List Metadata) (p : Package) :
    l.foldl (takeWritten filter) p =
      { p with goFiles := p.goFiles ++ (kept filter l).map (·.file) } := by
  have hkept : l.foldl (takeWritten filter) p = (kept filter l).foldl
      (fun p m => { p with goFiles := p.goFiles ++ [m.file] }) p := List.foldl_filter.symm
  rw [hkept]
  clear hkept
  induction kept filter l generalizing p with
  | nil => simp
  | cons m l ih =>
    rw [List.foldl_cons, ih, List.map_cons]
    simp only [List.append_assoc, List.singleton_append]

theorem foldl_takeOther (l : List Metadata) (p : Package) :
    l.foldl takeOther p =
      { p with otherFiles := p.otherFiles ++ (l.filter (·.matched)).map (·.file) } := by
  have hmatched : l.foldl takeOther p = (l.filter (·.matched)).foldl
      (fun p m => { p with otherFiles := p.otherFiles ++ [m.file] }) p := List.foldl_filter.symm
  rw [hmatched]
  clear hmatched
  induction l.filter (·.matched) generalizing p with
  | nil => simp
  | cons m l ih =>
    rw [List.foldl_cons, ih, List.map_cons]
    simp only [List.append_assoc, List.singleton_append]

theorem foldl_takeCompiled (filter : TestFilter) (l : List Metadata) (p : Package) :
    l.foldl (takeCompiled standardStart filter archives) p =
      { p with
        compiledGoFiles := p.compiledGoFiles ++ (kept filter l).map (·.file)
        name := ((kept filter l).map (·.package)).foldl takeName p.name
        imports := ((kept filter l).flatMap (·.imports)).foldl
          (takeImport standardStart archives) p.imports } := by
  have hkept : l.foldl (takeCompiled standardStart filter archives) p = (kept filter l).foldl
      (fun p m => { p with
        compiledGoFiles := p.compiledGoFiles ++ [m.file]
        name := takeName p.name m.package
        imports := m.imports.foldl (takeImport standardStart archives) p.imports }) p :=
    List.foldl_filter.symm
  rw [hkept]
  clear hkept
  induction kept filter l generalizing p with
  | nil => simp
  | cons m l ih =>
    rw [List.foldl_cons, ih, List.map_cons, List.map_cons, List.foldl_cons, List.flatMap_cons,
      List.foldl_append]
    simp only [List.append_assoc, List.singleton_append]

/-- **The first name that is not empty is taken.** -/
theorem foldl_takeName (names : List String) (name : String) :
    names.foldl takeName name =
      if name.isEmpty then (names.find? fun n => !n.isEmpty).getD "" else name := by
  induction names generalizing name with
  | nil =>
    cases h : name.isEmpty with
    | true => exact String.isEmpty_iff.1 h
    | false => rfl
  | cons n names ih =>
    rw [List.foldl_cons, ih, takeName, List.find?_cons]
    cases hname : name.isEmpty with
    | true =>
      cases hn : n.isEmpty with
      | true => simp [hn]
      | false => simp [hn]
    | false => simp [hname]

theorem takeName_foldl_takeName (l : List Metadata) :
    takeName ((l.map (·.package)).foldl takeName "") emptyName = nameOf l := by
  rw [foldl_takeName, nameOf]
  cases h : (l.map (·.package)).find? fun n => !n.isEmpty with
  | none => rfl
  | some n =>
    have hn := List.find?_some h
    simp_all [takeName]

/-- **The package behind an import is the one of the last archive with its path.** -/
theorem getD_behind (path : String) :
    ((behind archives).get? path).getD (standardStart ++ path) =
      packageBehind standardStart archives path := by
  rw [behind, Names.Map.get?_ofList, ← List.map_reverse, List.find?_map, packageBehind]
  show ((Option.map _ (archives.reverse.find? fun a => a.importPath == path)).map _).getD _ = _
  cases archives.reverse.find? fun a => a.importPath == path <;> rfl

theorem foldl_takeImport (paths : List String) (m : Names.Map) :
    paths.foldl (takeImport standardStart archives) m =
      ((paths.filter (· != "C")).map fun path =>
        (path, packageBehind standardStart archives path)).foldl (fun m e => m.insert e.1 e.2) m := by
  induction paths generalizing m with
  | nil => rfl
  | cons path paths ih =>
    rw [List.foldl_cons, ih, takeImport, getD_behind, List.filter_cons]
    by_cases hpath : path = "C"
    · simp [hpath]
    · simp [hpath]

/-- The descriptor of a unit, by what is read of its sources. -/
def ofContributions (standardStart : String) (u : CompilationUnit)
    (written other compiled : List Metadata) : Package where
  id := u.id
  name := nameOf (kept u.testFilter compiled)
  path := u.importMap
  problems := []
  goFiles := (kept u.testFilter written).map (·.file)
  compiledGoFiles := (kept u.testFilter compiled).map (·.file)
  otherFiles := (other.filter (·.matched)).map (·.file)
  exportFile := u.exportFile
  imports := importsOf standardStart u.archives (kept u.testFilter compiled)

theorem finish_foldl (u : CompilationUnit) (written other compiled : List Metadata) :
    finish (compiled.foldl (takeCompiled standardStart u.testFilter u.archives)
        (other.foldl takeOther (written.foldl (takeWritten u.testFilter) u.blank))) =
      ofContributions standardStart u written other compiled := by
  rw [foldl_takeCompiled, foldl_takeOther, foldl_takeWritten, foldl_takeImport, finish]
  simp only [blank, ofContributions]
  rw [← takeName_foldl_takeName]
  rfl

/-- **The draft of a unit ends as its descriptor,** or with the same failure. -/
theorem draft_eq (fs : FileSystem) (ctx : Constraint.Context) (standardStart : String)
    (u : CompilationUnit) (parse : Parser) :
    u.draft fs ctx standardStart parse = u.describe fs ctx standardStart parse := by
  simp only [draft, Result.foldlM_map, describe]
  cases u.writtenSources.mapM fun file => Metadata.read fs ctx file false parse with
  | error f => rfl
  | ok written =>
    cases u.otherSources.mapM fun file => Metadata.read fs ctx file false parse with
    | error f => rfl
    | ok other =>
      cases u.goSources.mapM fun file => Metadata.read fs ctx file true parse with
      | error f => rfl
      | ok compiled => exact congrArg Except.ok (finish_foldl u written other compiled)

end CompilationUnit
end PackageListing
