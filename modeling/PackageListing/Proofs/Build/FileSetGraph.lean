/-
# What a graph of file sets says of its history

A client adds roots and sets to a graph and records events in it, in any order and number
(`Step`). What a step adds is said apart from the graph: the roots (`Step.AddsRoot`) and the set
that it defines (`Step.Defines`). A graph holds the roots of all steps of its history and, of each
set, the latest definition (`mem_roots_after`, `lookup_after`). So its files are those listed by
the latest definitions of the sets that the roots lead to (`mem_files_after`), in the order of
their bytes.
-/

import Mathlib.Data.List.Induction
import PackageListing.Proofs.Build.Recording
import PackageListing.Proofs.Text.Utf8
import PackageListing.Proofs.Traversal.Reachability

namespace PackageListing
namespace Build
namespace FileSetGraph

/-- A step of a client of a graph. -/
inductive Step where
  | addRoot (id : String)
  | addSet (id : String) (set : FileSet)
  | record (aspect : String) (event : Event)

namespace Step

/-- What a step does to a graph. -/
def update : Step → Update
  | .addRoot id => change fun g => g.addRoot id
  | .addSet id set => change fun g => g.addSet id set
  | .record aspect event => note aspect event

/-- A step adds a root: by itself, or by a target that the aspect completed, in its output
group. -/
inductive AddsRoot : Step → String → Prop
  | root (id : String) : AddsRoot (.addRoot id) id
  | produced {aspect : String} {event : Event} {i : EventId} {target : TargetId}
      {completion : Completion} {group : OutputGroup} {id : String} (hi : event.id = some i)
      (htarget : i.targetCompleted = some target) (haspect : target.aspect = aspect)
      (hcompleted : event.completed = some completion) (hsuccess : completion.success = true)
      (hgroup : group ∈ completion.outputGroups) (hname : group.name = outputGroup)
      (hid : id ∈ group.fileSets) (hne : id ≠ "") : AddsRoot (.record aspect event) id

/-- A step defines a set: by itself, or by an event that announces the set. -/
inductive Defines : Step → String → FileSet → Prop
  | set (id : String) (set : FileSet) : Defines (.addSet id set) id set
  | announced {aspect : String} {event : Event} {i : EventId} {id : String}
      (hi : event.id = some i) (htarget : i.targetCompleted = none)
      (hset : i.namedSet = some id) :
      Defines (.record aspect event) id (event.fileSet.getD ⟨[], []⟩)

/-- The roots that a step adds, in their order. -/
def added : Step → List String
  | .addRoot id => [id]
  | .addSet _ _ => []
  | .record aspect event =>
    match event.id, event.completed with
    | some ⟨some target, _⟩, some completion =>
      if target.aspect = aspect ∧ completion.success = true then producedSets completion else []
    | _, _ => []

/-- The set that a step defines. -/
def definition? : Step → Option (String × FileSet)
  | .addRoot _ => none
  | .addSet id set => some (id, set)
  | .record _ event =>
    match event.id with
    | some ⟨none, some id⟩ => some (id, event.fileSet.getD ⟨[], []⟩)
    | _ => none

theorem added_foreign {aspect : String} {target : TargetId} {set : Option String}
    {completed : Option Completion} {fileSet : Option FileSet} (h : target.aspect ≠ aspect) :
    added (.record aspect ⟨some ⟨some target, set⟩, completed, fileSet⟩) = [] := by
  cases completed with
  | none => rfl
  | some completion => exact if_neg fun hown => h hown.1

/-- **What a step does:** it puts the set that it defines in front of the sets and the roots that
it adds behind the roots. -/
theorem update_eq (step : Step) (g : FileSetGraph) :
    (step.update g).2 = ⟨step.definition?.toList ++ g.sets, g.roots ++ step.added⟩ := by
  cases step with
  | addRoot id => rfl
  | addSet id set =>
    rw [added, List.append_nil]
    rfl
  | record aspect event =>
    rw [update, note_apply]
    cases event.told aspect with
    | nothing => simp [FileSetGraph.record, definition?, added]
    | unnamed => simp [FileSetGraph.record, definition?, added]
    | announced => simp [FileSetGraph.record, definition?, added, FileSetGraph.addSet]
    | foreign haspect =>
      simp [FileSetGraph.record, definition?, added_foreign haspect, haspect]
    | unsaid haspect => simp [FileSetGraph.record, definition?, added, haspect]
    | failed haspect => simp [FileSetGraph.record, definition?, added, haspect]
    | built haspect => simp [FileSetGraph.record, definition?, added, haspect, foldl_addRoot]

theorem mem_producedSets_iff {c : Completion} {id : String} :
    id ∈ producedSets c ↔
      ∃ group ∈ c.outputGroups, group.name = outputGroup ∧ id ∈ group.fileSets ∧ id ≠ "" := by
  simp only [producedSets, List.mem_filter, List.mem_flatMap, beq_iff_eq, Bool.not_eq_true',
    String.isEmpty_eq_false_iff]
  constructor
  · rintro ⟨⟨group, ⟨hgroup, hname⟩, hid⟩, hne⟩
    exact ⟨group, hgroup, hname, hid, hne⟩
  · rintro ⟨group, hgroup, hname, hid, hne⟩
    exact ⟨⟨group, ⟨hgroup, hname⟩, hid⟩, hne⟩

theorem mem_added_iff {step : Step} {id : String} : id ∈ step.added ↔ step.AddsRoot id := by
  constructor
  · intro h
    cases step with
    | addRoot root =>
      rw [added, List.mem_singleton] at h
      exact h ▸ .root root
    | addSet key set => cases h
    | record aspect event =>
      rw [added] at h
      split at h
      · next target set completion hi hcompleted =>
        split at h
        · next hown =>
          obtain ⟨group, hgroup, hname, hid, hne⟩ := mem_producedSets_iff.1 h
          exact .produced hi rfl hown.1 hcompleted hown.2 hgroup hname hid hne
        · cases h
      · cases h
  · intro h
    cases h with
    | root => exact List.mem_singleton_self id
    | @produced aspect event i target completion group _ hi htarget haspect hcompleted hsuccess
        hgroup hname hid hne =>
      obtain ⟨_, set⟩ := i
      obtain rfl : _ = some target := htarget
      rw [added, hi, hcompleted]
      simp only [haspect, hsuccess, and_self, if_true]
      exact mem_producedSets_iff.2 ⟨group, hgroup, hname, hid, hne⟩

theorem definition?_eq_some_iff {step : Step} {id : String} {set : FileSet} :
    step.definition? = some (id, set) ↔ step.Defines id set := by
  constructor
  · intro h
    cases step with
    | addRoot root => cases h
    | addSet key s =>
      cases h
      exact .set id set
    | record aspect event =>
      rw [definition?] at h
      split at h
      · next hi =>
        cases h
        exact .announced hi rfl rfl
      · cases h
  · intro h
    cases h with
    | set => rfl
    | @announced aspect event i _ hi htarget hset =>
      obtain ⟨_, _⟩ := i
      obtain rfl : _ = none := htarget
      obtain rfl : _ = some id := hset
      rw [definition?, hi]

end Step

/-- The graph after some steps. A step that fails is followed by the next one. -/
def after (steps : List Step) : FileSetGraph :=
  steps.foldl (fun g step => (step.update g).2) .empty

/-- **What a history does:** the sets are all definitions, the latest first, and the roots all
that were added. -/
theorem after_eq (steps : List Step) :
    after steps = ⟨(steps.filterMap Step.definition?).reverse, steps.flatMap Step.added⟩ := by
  induction steps using List.reverseRecOn with
  | nil => rfl
  | append_singleton steps step ih =>
    rw [after, List.foldl_append, List.foldl_cons, List.foldl_nil]
    show (step.update (after steps)).2 = _
    rw [Step.update_eq, ih, List.filterMap_append, List.reverse_append, List.flatMap_append,
      List.flatMap_singleton]
    cases h : step.definition? with
    | none => rw [List.filterMap_cons_none h]; rfl
    | some d => rw [List.filterMap_cons_some h]; rfl

/-- The steps define a set, and no step after that defines it anew. -/
def Latest (steps : List Step) (id : String) (set : FileSet) : Prop :=
  ∃ earlier step later, steps = earlier ++ step :: later ∧ step.Defines id set ∧
    ∀ t ∈ later, ∀ s, ¬t.Defines id s

/-- The latest definition of `a` has `b` among its sets. -/
def Child (steps : List Step) (a b : String) : Prop :=
  ∃ set, Latest steps a set ∧ b ∈ set.fileSets

theorem mem_roots_after {steps : List Step} {id : String} :
    id ∈ (after steps).roots ↔ ∃ step ∈ steps, step.AddsRoot id := by
  rw [after_eq, List.mem_flatMap]
  simp only [Step.mem_added_iff]

theorem latest_concat {steps : List Step} {step : Step} {id : String} {set : FileSet} :
    Latest (steps ++ [step]) id set ↔
      step.Defines id set ∨ (∀ s, ¬step.Defines id s) ∧ Latest steps id set := by
  constructor
  · rintro ⟨earlier, definer, later, heq, hdefines, hlater⟩
    rcases List.eq_nil_or_concat later with rfl | ⟨later, last, rfl⟩
    · obtain ⟨_, hlast⟩ := List.append_inj' heq rfl
      obtain rfl := List.singleton_inj.1 hlast
      exact Or.inl hdefines
    · rw [List.concat_eq_append, ← List.cons_append, ← List.append_assoc] at heq
      obtain ⟨hsteps, hlast⟩ := List.append_inj' heq rfl
      obtain rfl := List.singleton_inj.1 hlast
      rw [List.concat_eq_append] at hlater
      exact Or.inr ⟨hlater step (List.mem_append_right _ (List.mem_singleton_self step)),
        earlier, definer, later, hsteps, hdefines,
        fun t ht => hlater t (List.mem_append_left _ ht)⟩
  · rintro (hdefines | ⟨hno, earlier, definer, later, rfl, hdefines, hlater⟩)
    · exact ⟨steps, step, [], rfl, hdefines, fun t ht => absurd ht List.not_mem_nil⟩
    · refine ⟨earlier, definer, later ++ [step], by rw [List.append_assoc, List.cons_append],
        hdefines, fun t ht => ?_⟩
      rcases List.mem_append.1 ht with ht | ht
      · exact hlater t ht
      · rw [List.mem_singleton.1 ht]
        exact hno

/-- **A set is looked up in its latest definition.** -/
theorem lookup_after {steps : List Step} {id : String} {set : FileSet} :
    (after steps).sets.lookup id = some set ↔ Latest steps id set := by
  rw [after_eq]
  induction steps using List.reverseRecOn with
  | nil =>
    constructor
    · intro h
      cases h
    · rintro ⟨earlier, _, _, heq, _⟩
      cases earlier <;> cases heq
  | append_singleton steps step ih =>
    rw [latest_concat, ← ih, List.filterMap_append, List.reverse_append]
    simp only [← Step.definition?_eq_some_iff]
    rcases hdefinition : step.definition? with _ | ⟨key, s⟩
    · rw [List.filterMap_cons_none hdefinition]
      simp
    · rw [List.filterMap_cons_some hdefinition]
      by_cases hkey : id = key
      · simp [hkey]
      · have hne : (id == key) = false := beq_eq_false_iff_ne.2 hkey
        simp [hne, List.lookup_cons, Ne.symm hkey]

theorem leads_after {steps : List Step} {a b : String} :
    Traversal.Leads FileSet.fileSets (after steps).sets a b ↔
      Relation.ReflTransGen (Child steps) a b := by
  have hedge : Traversal.Edge FileSet.fileSets (after steps).sets = Child steps := by
    funext a b
    simp only [Traversal.Edge, Child, lookup_after]
  rw [Traversal.Leads, hedge]

/-- A file belongs to the graph of a history when the latest definition of some set that a root
leads to lists it. -/
def Listed (steps : List Step) (file : String) : Prop :=
  ∃ root, (∃ step ∈ steps, step.AddsRoot root) ∧ ∃ id set,
    Relation.ReflTransGen (Child steps) root id ∧ Latest steps id set ∧ file ∈ set.files

theorem mem_files_after {steps : List Step} {file : String} :
    file ∈ (after steps).files ↔ Listed steps file := by
  rw [files, Names.mem_sorted, List.mem_flatMap]
  simp only [Traversal.mem_preorder_iff, Traversal.Met, mem_roots_after, leads_after, lookup_after]
  constructor
  · rintro ⟨set, ⟨root, hroot, id, hway, hset⟩, hfile⟩
    exact ⟨root, hroot, id, set, hway, hset, hfile⟩
  · rintro ⟨root, hroot, id, set, hway, hset, hfile⟩
    exact ⟨set, ⟨root, hroot, id, hway, hset⟩, hfile⟩

/-- The bytes of the files increase. -/
theorem files_increasing (g : FileSetGraph) :
    g.files.Pairwise fun a b => Text.encode a.toList < Text.encode b.toList :=
  (Names.sorted_pairwise _).imp fun h => Text.encode_lt_encode_iff.2 h

/-- **The files of a graph after any steps.** They are those that the latest definition of some
set lists to which a recorded root leads along latest definitions; they increase in the order of
their bytes. Recording one more event in place gives what `record` gives, and if it fails, the
graph is left as it was. -/
theorem files_after (steps : List Step) :
    (∀ file, file ∈ (after steps).files ↔ Listed steps file) ∧
      ((after steps).files.Pairwise fun a b => Text.encode a.toList < Text.encode b.toList) ∧
      ∀ aspect event, note aspect event (after steps) =
        match (after steps).record aspect event with
        | .ok g => (.ok (), g)
        | .error label => (.error label, after steps) :=
  ⟨fun _ => mem_files_after, files_increasing _, fun aspect event => note_apply aspect event _⟩

end FileSetGraph
end Build
end PackageListing
