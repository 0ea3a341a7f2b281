/-
# How test filters share out a unit

A filter does not decide what is read, so a unit has a descriptor with each of the three filters or
with none of them (`CompilationUnit.describe_withFilter_eq_error_iff`). A source that counts without
a filter counts with just one of the other two (`CompilationUnit.keeps_off`), so the positions of
the sources that count are shared out between these (`CompilationUnit.areShared`), and with them the
imports and the name. `CompilationUnit.describe_shares_out` puts this together for the descriptors
of a unit with the three filters.
-/

import Mathlib.Data.List.Forall2
import PackageListing.Proofs.CompilationUnit.Descriptor

namespace PackageListing
namespace CompilationUnit

open Source (Metadata Parser)

/-- The unit with another filter. -/
def withFilter (u : CompilationUnit) (filter : TestFilter) : CompilationUnit :=
  { u with testFilter := filter }

section

variable (fs : FileSystem) (ctx : Constraint.Context) (parse : Parser)

/-- The positions of the sources that count. -/
def positions (filter : TestFilter) (preprocessed : Bool) (sources : List String) : List Nat :=
  sources.findIdxs (keeps fs ctx parse filter preprocessed)

/-- The files are those of the sources at the positions that count, in their order. A position that
counts without a filter counts with just one of the other filters, and the other way round. -/
structure AreShared (preprocessed : Bool) (sources : List String)
    (files : TestFilter → List String) : Prop where
  at_positions : ∀ filter, List.Forall₂ (fun i file => sources[i]? = some file)
    (positions fs ctx parse filter preprocessed sources) (files filter)
  increasing : ∀ filter, (positions fs ctx parse filter preprocessed sources).Pairwise (· < ·)
  mem_iff : ∀ i, i ∈ positions fs ctx parse .off preprocessed sources ↔
    i ∈ positions fs ctx parse .only preprocessed sources ∨
      i ∈ positions fs ctx parse .exclude preprocessed sources
  disjoint : (positions fs ctx parse .only preprocessed sources).Disjoint
    (positions fs ctx parse .exclude preprocessed sources)

/-- The name without a filter is given by the filter that keeps the first source with a name. -/
def IsNameShared (p : TestFilter → Package) : Prop :=
  (∃ before file after filter, (p .off).compiledGoFiles = before ++ file :: after ∧
      (∀ f ∈ before, (contribution fs ctx parse true f).package = "") ∧
      (contribution fs ctx parse true file).package ≠ "" ∧
      filter ≠ .off ∧ file ∈ (p filter).compiledGoFiles ∧ (p .off).name = (p filter).name) ∨
    (∀ f ∈ (p .off).compiledGoFiles, (contribution fs ctx parse true f).package = "") ∧
      (p .off).name = emptyName

/-- What the descriptors of a unit with the three filters have to do with each other. -/
structure SharesOut (u : CompilationUnit) (p : TestFilter → Package) : Prop where
  compiledGoFiles : AreShared fs ctx parse true u.goSources fun filter => (p filter).compiledGoFiles
  goFiles : AreShared fs ctx parse false u.writtenSources fun filter => (p filter).goFiles
  otherFiles : ∀ filter, (p filter).otherFiles = (p .off).otherFiles
  imports : ∀ path id, (p .off).imports.get? path = some id ↔
    (p .only).imports.get? path = some id ∨ (p .exclude).imports.get? path = some id
  agree : ∀ path id id', (p .only).imports.get? path = some id →
    (p .exclude).imports.get? path = some id' → id = id'
  name : IsNameShared fs ctx parse p

end

variable {fs : FileSystem} {ctx : Constraint.Context} {parse : Parser}
  {standardStart : String} {u : CompilationUnit} {filter : TestFilter} {preprocessed : Bool}
  {file : String}

/-! ### What is read -/

/-- **What fails with one filter fails with all,** and in the same way. -/
theorem describe_withFilter_eq_error_iff {f : Failure} :
    describe fs ctx standardStart (u.withFilter filter) parse = .error f ↔
      describe fs ctx standardStart u parse = .error f := by
  simp only [describe, withFilter]
  cases u.writtenSources.mapM fun file => Metadata.read fs ctx file false parse with
  | error e => exact Iff.rfl
  | ok written =>
    cases u.otherSources.mapM fun file => Metadata.read fs ctx file false parse with
    | error e => exact Iff.rfl
    | ok other =>
      cases u.goSources.mapM fun file => Metadata.read fs ctx file true parse with
      | error e => exact Iff.rfl
      | ok compiled => exact ⟨fun h => (by cases h), fun h => (by cases h)⟩

/-! ### What is kept -/

/-- **What counts without a filter** counts with one of the other two. -/
theorem keeps_off : keeps fs ctx parse .off preprocessed file = true ↔
    keeps fs ctx parse .only preprocessed file = true ∨
      keeps fs ctx parse .exclude preprocessed file = true := by
  simp only [keeps, TestFilter.accepts]
  cases TestFilter.isTestPackage (contribution fs ctx parse preprocessed file).package <;> simp

theorem not_keeps_only_exclude : ¬(keeps fs ctx parse .only preprocessed file = true ∧
    keeps fs ctx parse .exclude preprocessed file = true) := by
  simp only [keeps, TestFilter.accepts]
  cases TestFilter.isTestPackage (contribution fs ctx parse preprocessed file).package <;> simp

theorem keeps_off_of_keeps (h : keeps fs ctx parse filter preprocessed file = true) :
    keeps fs ctx parse .off preprocessed file = true := by
  cases filter with
  | off => exact h
  | only => exact keeps_off.2 (.inl h)
  | exclude => exact keeps_off.2 (.inr h)

/-- The sources that a filter keeps are kept without one. -/
theorem filter_keeps_off (filter : TestFilter) (sources : List String) :
    (sources.filter (keeps fs ctx parse .off preprocessed)).filter
        (keeps fs ctx parse filter preprocessed) =
      sources.filter (keeps fs ctx parse filter preprocessed) := by
  rw [List.filter_filter]
  exact List.filter_congr fun file _ => Bool.and_eq_left_iff_imp.2 keeps_off_of_keeps

theorem mem_positions_iff {sources : List String} {i : Nat} :
    i ∈ positions fs ctx parse filter preprocessed sources ↔
      ∃ h : i < sources.length, keeps fs ctx parse filter preprocessed sources[i] = true :=
  List.mem_findIdxs_iff_exists_getElem_pos

/-- **The positions are shared out** between the two filters that drop sources. -/
theorem areShared (fs : FileSystem) (ctx : Constraint.Context) (parse : Parser)
    (preprocessed : Bool) (sources : List String) :
    AreShared fs ctx parse preprocessed sources fun filter =>
      sources.filter (keeps fs ctx parse filter preprocessed) where
  at_positions filter := by
    refine List.forall₂_iff_get.2 ⟨?_, fun i hposition hfile => ?_⟩
    · rw [positions, List.length_findIdxs, List.countP_eq_length_filter]
    · rw [List.get_eq_getElem, List.get_eq_getElem,
        List.getElem_filter_eq_getElem_getElem_findIdxs]
      exact List.getElem?_eq_getElem _
  increasing filter := List.pairwise_findIdxs
  mem_iff i := by
    simp only [mem_positions_iff, keeps_off, exists_or]
  disjoint i honly hexclude := by
    obtain ⟨_, honly⟩ := mem_positions_iff.1 honly
    obtain ⟨_, hexclude⟩ := mem_positions_iff.1 hexclude
    exact not_keeps_only_exclude ⟨honly, hexclude⟩

/-! ### Names -/

theorem IsNameOf.eq_nameOf {sources : List String} {name : String}
    (h : IsNameOf fs ctx parse sources name) :
    name = nameOf (sources.map (contribution fs ctx parse true)) := by
  rcases h with ⟨before, file, after, rfl, hbefore, rfl, hne⟩ | ⟨hnone, rfl⟩
  · have hskip : (before.map fun f => (contribution fs ctx parse true f).package).find?
        (fun name => !name.isEmpty) = none := by
      simpa using hbefore
    simp [nameOf, Function.comp_def, hskip, hne]
  · have hskip : (sources.map fun f => (contribution fs ctx parse true f).package).find?
        (fun name => !name.isEmpty) = none := by
      simpa using hnone
    simp [nameOf, Function.comp_def, hskip]

/-- What has no name leaves the first name of the others what it is. -/
theorem isNameOf_filter {before after : List String}
    (hbefore : ∀ f ∈ before, (contribution fs ctx parse true f).package = "")
    (hfile : (contribution fs ctx parse true file).package ≠ "") {keep : String → Bool}
    (hkeep : keep file = true) :
    IsNameOf fs ctx parse ((before ++ file :: after).filter keep)
      (contribution fs ctx parse true file).package := by
  rw [List.filter_append, List.filter_cons_of_pos hkeep]
  exact .inl ⟨_, file, _, rfl, fun f hf => hbefore f (List.mem_filter.1 hf).1, rfl, hfile⟩

/-! ### The three descriptors -/

section

variable {p : TestFilter → Package}
  (h : ∀ filter, describe fs ctx standardStart (u.withFilter filter) parse = .ok (p filter))

include h

theorem compiledGoFiles_eq (filter : TestFilter) :
    (p filter).compiledGoFiles = u.goSources.filter (keeps fs ctx parse filter true) :=
  (describes_of_describe (h filter)).compiledGoFiles

/-- **The name** comes from the filter that keeps the first source with one. -/
theorem isNameShared : IsNameShared fs ctx parse p := by
  have hname (filter : TestFilter) := (describes_of_describe (h filter)).name
  rcases hname .off with ⟨before, file, after, heq, hbefore, hfile, hne⟩ | hnone
  · have hkept : file ∈ (p .off).compiledGoFiles :=
      heq ▸ List.mem_append_right before List.mem_cons_self
    rw [compiledGoFiles_eq h, List.mem_filter, keeps_off] at hkept
    obtain ⟨filter, hfilter, hkeeps⟩ :
        ∃ filter, filter ≠ .off ∧ keeps fs ctx parse filter true file = true :=
      hkept.2.elim (fun honly => ⟨.only, nofun, honly⟩) fun hexclude => ⟨.exclude, nofun, hexclude⟩
    have hfiles : (p filter).compiledGoFiles =
        (before ++ file :: after).filter (keeps fs ctx parse filter true) := by
      rw [← heq, compiledGoFiles_eq h, compiledGoFiles_eq h, filter_keeps_off]
    rw [← hfile] at hne
    have hfirst : IsNameOf fs ctx parse (p filter).compiledGoFiles
        (contribution fs ctx parse true file).package := by
      rw [hfiles]
      exact isNameOf_filter hbefore hne hkeeps
    refine .inl ⟨before, file, after, filter, heq, hbefore, hne, hfilter, ?_, ?_⟩
    · rw [compiledGoFiles_eq h]
      exact List.mem_filter.2 ⟨hkept.1, hkeeps⟩
    · rw [← hfile, hfirst.eq_nameOf, (hname filter).eq_nameOf]
  · exact .inr hnone

theorem get?_imports_off (path id : String) :
    (p .off).imports.get? path = some id ↔
      (p .only).imports.get? path = some id ∨ (p .exclude).imports.get? path = some id := by
  rw [(describes_of_describe (h .off)).imports, (describes_of_describe (h .only)).imports,
    (describes_of_describe (h .exclude)).imports]
  simp only [compiledGoFiles_eq h, List.mem_filter, keeps_off]
  grind [withFilter]

theorem sharesOut : SharesOut fs ctx parse u p where
  compiledGoFiles := by
    simp only [compiledGoFiles_eq h]
    exact areShared fs ctx parse true u.goSources
  goFiles := by
    have hgoFiles (filter : TestFilter) := (describes_of_describe (h filter)).goFiles
    simp only [hgoFiles]
    exact areShared fs ctx parse false u.writtenSources
  otherFiles filter := by
    rw [(describes_of_describe (h filter)).otherFiles, (describes_of_describe (h .off)).otherFiles]
    rfl
  imports := get?_imports_off h
  agree path id id' honly hexclude := by
    have hid := (get?_imports_off h path id).2 (.inl honly)
    have hid' := (get?_imports_off h path id').2 (.inr hexclude)
    exact Option.some.inj (hid.symm.trans hid')
  name := isNameShared h

end

/-- **Two filters share out what there is without one.** A unit has a descriptor with each of the
three filters, or it fails with all in the same way, which it does if one of its sources cannot be
read. Of the descriptors, those with a filter that drops sources share out the sources, the imports
and the name of the one without. -/
theorem describe_shares_out (fs : FileSystem) (ctx : Constraint.Context) (standardStart : String)
    (u : CompilationUnit) (parse : Parser) :
    (¬u.Readable fs ctx parse ∧
        ∃ f, ∀ filter, describe fs ctx standardStart (u.withFilter filter) parse = .error f) ∨
      u.Readable fs ctx parse ∧ ∃ p : TestFilter → Package,
        (∀ filter, describe fs ctx standardStart (u.withFilter filter) parse = .ok (p filter)) ∧
          SharesOut fs ctx parse u p := by
  by_cases hreadable : u.Readable fs ctx parse
  · have hok (filter : TestFilter) :
        ∃ p, describe fs ctx standardStart (u.withFilter filter) parse = .ok p :=
      ⟨_, describe_eq_ok_iff.2 ⟨hreadable, rfl⟩⟩
    choose p hp using hok
    exact .inr ⟨hreadable, p, hp, sharesOut hp⟩
  · obtain ⟨f, hf⟩ : ∃ f, describe fs ctx standardStart u parse = .error f :=
      Result.not_ok_iff.1 fun ⟨p, hp⟩ => hreadable (describe_eq_ok_iff.1 hp).1
    exact .inl ⟨hreadable, f, fun filter => describe_withFilter_eq_error_iff.2 hf⟩

end CompilationUnit
end PackageListing
