/-
# Recording events in place

An event may tell an aspect nothing, of a set, of a target of another aspect, or of a target of its
own, which was built or not (`Event.Told`). A graph that records an event is changed in place, root
by root (`note`). It comes to the graph that `FileSetGraph.record` gives, and when the aspect
failed for the target, nothing has been changed (`note_apply`).
-/

import PackageListing.Build.FileSetGraph
import PackageListing.Proofs.Action

namespace PackageListing
namespace Build

/-- What an event can tell an aspect. -/
inductive Event.Told (aspect : String) : Event → Prop
  | nothing {completed : Option Completion} {fileSet : Option FileSet} :
    Told aspect ⟨none, completed, fileSet⟩
  | unnamed {completed : Option Completion} {fileSet : Option FileSet} :
    Told aspect ⟨some ⟨none, none⟩, completed, fileSet⟩
  | announced {id : String} {completed : Option Completion} {fileSet : Option FileSet} :
    Told aspect ⟨some ⟨none, some id⟩, completed, fileSet⟩
  | foreign {target : TargetId} {set : Option String} {completed : Option Completion}
    {fileSet : Option FileSet} (haspect : target.aspect ≠ aspect) :
    Told aspect ⟨some ⟨some target, set⟩, completed, fileSet⟩
  | unsaid {target : TargetId} {set : Option String} {fileSet : Option FileSet}
    (haspect : target.aspect = aspect) : Told aspect ⟨some ⟨some target, set⟩, none, fileSet⟩
  | failed {target : TargetId} {set : Option String} {groups : List OutputGroup}
    {fileSet : Option FileSet} (haspect : target.aspect = aspect) :
    Told aspect ⟨some ⟨some target, set⟩, some ⟨false, groups⟩, fileSet⟩
  | built {target : TargetId} {set : Option String} {groups : List OutputGroup}
    {fileSet : Option FileSet} (haspect : target.aspect = aspect) :
    Told aspect ⟨some ⟨some target, set⟩, some ⟨true, groups⟩, fileSet⟩

theorem Event.told (aspect : String) (event : Event) : event.Told aspect := by
  rcases event with ⟨_ | ⟨_ | target, set⟩, completed, fileSet⟩
  · exact .nothing
  · cases set with
    | none => exact .unnamed
    | some id => exact .announced
  · by_cases haspect : target.aspect = aspect
    · rcases completed with _ | ⟨success, groups⟩
      · exact .unsaid haspect
      · cases success with
        | false => exact .failed haspect
        | true => exact .built haspect
    · exact .foreign haspect

namespace FileSetGraph

/-- An update of a graph in place, which may fail with the label of a target. -/
abbrev Update : Type := ExceptT String (StateM FileSetGraph) Unit

/-- The update that cannot fail. -/
def change (f : FileSetGraph → FileSetGraph) : Update :=
  fun g => (.ok (), f g)

/-- Adds the sets of an output group, if it is the group of the aspect, each by itself. Sets
without an identifier are left out. -/
def noteGroup (group : OutputGroup) : Update :=
  if group.name = outputGroup then
    group.fileSets.forM fun id => if id.isEmpty then pure () else change fun g => g.addRoot id
  else pure ()

/-- Records an event in place. -/
def note (aspect : String) (event : Event) : Update :=
  match event.id with
  | none => pure ()
  | some id =>
    match id.targetCompleted with
    | some target =>
      if target.aspect = aspect then
        let completion := event.completed.getD ⟨false, []⟩
        if completion.success then completion.outputGroups.forM noteGroup
        else throw target.label
      else pure ()
    | none =>
      match id.namedSet with
      | some set => change fun g => g.addSet set (event.fileSet.getD ⟨[], []⟩)
      | none => pure ()

/-- Updates that add roots add them in a row. -/
theorem forM_apply {β : Type} {update : β → Update} {added : β → List String}
    (h : ∀ b g, update b g = (.ok (), { g with roots := g.roots ++ added b })) (l : List β)
    (g : FileSetGraph) :
    l.forM update g = (.ok (), { g with roots := g.roots ++ l.flatMap added }) := by
  induction l generalizing g with
  | nil => rw [List.flatMap_nil, List.append_nil]; rfl
  | cons b l ih =>
    show (update b >>= fun _ => l.forM update) g = _
    rw [Action.bind_apply, h, List.flatMap_cons]
    simp only [ih, List.append_assoc]

/-- The sets of an output group that an aspect adds. -/
def groupSets (group : OutputGroup) : List String :=
  if group.name = outputGroup then group.fileSets.filter fun id => !id.isEmpty else []

theorem noteGroup_apply (group : OutputGroup) (g : FileSetGraph) :
    noteGroup group g = (.ok (), { g with roots := g.roots ++ groupSets group }) := by
  rw [noteGroup, groupSets]
  split
  · have hone : ∀ (id : String) (g : FileSetGraph),
        (if id.isEmpty then pure () else change fun g => g.addRoot id : Update) g =
          (.ok (), { g with roots := g.roots ++ [id].filter fun id => !id.isEmpty }) := by
      intro id g
      by_cases hid : id.isEmpty
      · simp only [hid, if_true, List.filter, Bool.not_true, List.append_nil]
        rfl
      · simp only [hid, List.filter, Bool.not_false]
        rfl
    rw [forM_apply hone, ← List.filter_flatMap, List.flatMap_singleton']
  · rw [List.append_nil]
    rfl

theorem producedSets_eq (c : Completion) : producedSets c = c.outputGroups.flatMap groupSets := by
  rw [producedSets, List.filter_flatMap]
  induction c.outputGroups with
  | nil => rfl
  | cons group groups ih =>
    rw [List.flatMap_cons, groupSets, List.filter_cons, ← ih]
    by_cases h : group.name = outputGroup
    · rw [if_pos h, if_pos (beq_iff_eq.2 h), List.flatMap_cons]
    · rw [if_neg h, if_neg (mt beq_iff_eq.1 h), List.nil_append]

theorem foldl_addRoot (ids : List String) (g : FileSetGraph) :
    ids.foldl addRoot g = { g with roots := g.roots ++ ids } := by
  induction ids generalizing g with
  | nil => rw [List.foldl_nil, List.append_nil]
  | cons id ids ih => rw [List.foldl_cons, ih, addRoot, List.append_assoc, List.singleton_append]

/-- **An event is recorded entirely or not at all.** Recording in place ends in the graph that
`record` gives; where it fails, the graph is what it was. -/
theorem note_apply (aspect : String) (event : Event) (g : FileSetGraph) :
    note aspect event g =
      match g.record aspect event with
      | .ok g' => (.ok (), g')
      | .error label => (.error label, g) := by
  cases event.told aspect with
  | nothing => rfl
  | unnamed => rfl
  | announced => rfl
  | foreign haspect =>
    simp only [note, record, if_neg haspect]
    rfl
  | unsaid haspect =>
    simp only [note, record, if_pos haspect]
    rfl
  | failed haspect =>
    simp only [note, record, if_pos haspect]
    rfl
  | built haspect =>
    simp only [note, record, if_pos haspect, Option.getD_some, if_true]
    rw [forM_apply noteGroup_apply, foldl_addRoot, producedSets_eq]

end FileSetGraph
end Build
end PackageListing
