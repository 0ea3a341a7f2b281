/-
# What a harvest comes to

A harvest fails with the first target that the aspect failed for (`failure?`), before any defect of
the log; else with the defect; else it gives the files of the graph of all events (`harvest_eq`).
So it is indifferent to what an event says beyond its essence (`essence?`): to the targets of other
aspects, to other output groups, and to events that tell of neither targets nor sets
(`harvest_essence`). A harvest that takes event after event from a reader, and stops at the first
failure, comes to the same (`collect_start`).
-/

import PackageListing.Build.Harvest
import PackageListing.Proofs.Build.EventReader
import PackageListing.Proofs.Build.FileSetGraph

namespace PackageListing
namespace Build

/-! ### Recording all events of a log -/

/-- The label of the target for which an aspect failed, by an event that completes the target
without success or does not say how. -/
def failure? (aspect : String) (event : Event) : Option String :=
  match event.id with
  | some ⟨some target, _⟩ =>
    if target.aspect = aspect ∧ event.completed.map (·.success) ≠ some true then
      some target.label
    else none
  | _ => none

namespace FileSetGraph

theorem record_eq (aspect : String) (g : FileSetGraph) (event : Event) :
    g.record aspect event =
      match failure? aspect event with
      | some label => .error label
      | none => .ok ((Step.record aspect event).update g).2 := by
  rw [Step.update, note_apply]
  cases event.told aspect with
  | nothing => rfl
  | unnamed => rfl
  | announced => rfl
  | foreign haspect => simp [record, failure?, haspect]
  | unsaid haspect => simp [record, failure?, haspect]
  | failed haspect => simp [record, failure?, haspect]
  | built haspect => simp [record, failure?, haspect]

theorem foldlM_record (aspect : String) (events : List Event) (g : FileSetGraph) :
    events.foldlM (record aspect) g =
      match events.findSome? (failure? aspect) with
      | some label => .error label
      | none => .ok (events.foldl (fun g event => ((Step.record aspect event).update g).2) g) := by
  induction events generalizing g with
  | nil => rfl
  | cons event events ih =>
    rw [List.foldlM_cons, record_eq, List.findSome?_cons]
    cases failure? aspect event with
    | some label => rfl
    | none => exact ih _

end FileSetGraph

/-- The graph of all events of a log. -/
def graphOf (aspect : String) (events : List Event) : FileSetGraph :=
  FileSetGraph.after (events.map (.record aspect))

/-- **What a harvest comes to.** -/
theorem harvest_eq (aspect : String) (log : EventLog) :
    harvest aspect log =
      match log.events.findSome? (failure? aspect), log.defect with
      | some label, _ => .error (.failedTarget label)
      | none, some defect => .error (.malformed defect)
      | none, none => .ok (graphOf aspect log.events).files := by
  rw [harvest, FileSetGraph.foldlM_record, graphOf, FileSetGraph.after, List.foldl_map]
  cases log.events.findSome? (failure? aspect) with
  | some label => rfl
  | none => cases log.defect <;> rfl

/-! ### What an event matters -/

/-- What an event says to an aspect: of a target that the aspect completed, whether it was built
and the output group of the aspect; of any other target, nothing; of a set, what it is. -/
def essence? (aspect : String) : Event → Option Event
  | ⟨some ⟨some target, _⟩, completed, _⟩ =>
    if target.aspect = aspect then
      some ⟨some ⟨some target, none⟩,
        completed.map fun c =>
          { c with outputGroups := c.outputGroups.filter fun group => group.name == outputGroup },
        none⟩
    else none
  | ⟨some ⟨none, some id⟩, _, fileSet⟩ => some ⟨some ⟨none, some id⟩, none, fileSet⟩
  | _ => none

theorem failure?_essence (aspect : String) (event : Event) :
    (essence? aspect event).bind (failure? aspect) = failure? aspect event := by
  cases event.told aspect with
  | nothing => rfl
  | unnamed => rfl
  | announced => rfl
  | foreign haspect => simp [essence?, failure?, haspect]
  | unsaid haspect => simp [essence?, failure?, haspect]
  | failed haspect => simp [essence?, failure?, haspect]
  | built haspect => simp [essence?, failure?, haspect]

theorem producedSets_filter (c : Completion) :
    FileSetGraph.producedSets { c with
        outputGroups := c.outputGroups.filter fun group => group.name == outputGroup } =
      FileSetGraph.producedSets c := by
  simp only [FileSetGraph.producedSets, List.filter_filter, Bool.and_self]

theorem update_essence (aspect : String) (event : Event) (g : FileSetGraph) :
    ((essence? aspect event).elim g fun e => ((FileSetGraph.Step.record aspect e).update g).2) =
      ((FileSetGraph.Step.record aspect event).update g).2 := by
  simp only [FileSetGraph.Step.update_eq, FileSetGraph.Step.definition?]
  cases event.told aspect with
  | nothing => simp [essence?, FileSetGraph.Step.added]
  | unnamed => simp [essence?, FileSetGraph.Step.added]
  | announced => simp [essence?, FileSetGraph.Step.added]
  | foreign haspect => simp [essence?, FileSetGraph.Step.added_foreign haspect, haspect]
  | unsaid haspect => simp [essence?, FileSetGraph.Step.added, haspect]
  | failed haspect => simp [essence?, FileSetGraph.Step.added, haspect]
  | @built _ _ groups _ haspect =>
    have hsets := producedSets_filter ⟨true, groups⟩
    simp only at hsets
    simp [essence?, FileSetGraph.Step.added, haspect, hsets]

theorem findSome?_essence (aspect : String) (events : List Event) :
    (events.filterMap (essence? aspect)).findSome? (failure? aspect) =
      events.findSome? (failure? aspect) := by
  induction events with
  | nil => rfl
  | cons event events ih =>
    rw [List.findSome?_cons, ← failure?_essence]
    cases h : essence? aspect event with
    | none =>
      rw [List.filterMap_cons_none h]
      exact ih
    | some e =>
      rw [List.filterMap_cons_some h, List.findSome?_cons, ih]
      rfl

theorem foldl_essence (aspect : String) (events : List Event) (g : FileSetGraph) :
    (events.filterMap (essence? aspect)).foldl
        (fun g event => ((FileSetGraph.Step.record aspect event).update g).2) g =
      events.foldl (fun g event => ((FileSetGraph.Step.record aspect event).update g).2) g := by
  induction events generalizing g with
  | nil => rfl
  | cons event events ih =>
    rw [List.foldl_cons, ← update_essence]
    cases h : essence? aspect event with
    | none =>
      rw [List.filterMap_cons_none h]
      exact ih g
    | some e =>
      rw [List.filterMap_cons_some h, List.foldl_cons]
      exact ih _

/-- **Nothing but the essence of the events matters.** -/
theorem harvest_essence (aspect : String) (log : EventLog) :
    harvest aspect ⟨log.events.filterMap (essence? aspect), log.defect⟩ = harvest aspect log := by
  rw [harvest, harvest, FileSetGraph.foldlM_record, FileSetGraph.foldlM_record, findSome?_essence,
    foldl_essence]

/-! ### Reading and recording by turns -/

namespace Reader

/-- Records the events that a reader gives, one by one, until a target has failed, a record has a
defect, or the log ends. -/
def collect (aspect : String) (r : Reader) (g : FileSetGraph) :
    Except HarvestDefect (List String) :=
  match hnext : r.next with
  | (none, _) => .ok g.files
  | (some (.error defect), _) => .error (.malformed defect)
  | (some (.ok event), r') =>
    have := length_next hnext
    match g.record aspect event with
    | .error label => .error (.failedTarget label)
    | .ok g => collect aspect r' g
  termination_by r.bytes.length

theorem collect_eq (aspect : String) (r : Reader) (g : FileSetGraph) :
    r.collect aspect g =
      match r.next with
      | (none, _) => .ok g.files
      | (some (.error defect), _) => .error (.malformed defect)
      | (some (.ok event), r') =>
        match g.record aspect event with
        | .error label => .error (.failedTarget label)
        | .ok g => r'.collect aspect g := by
  rw [collect]
  split
  · next h => rw [h]
  · next h => rw [h]
  · next h => simp only [h]

theorem collect_of_yields {aspect : String} {log : EventLog} {r : Reader} (g : FileSetGraph)
    (h : r.Yields log.items) :
    r.collect aspect g =
      match log.events.foldlM (FileSetGraph.record aspect) g with
      | .error label => .error (.failedTarget label)
      | .ok g =>
        match log.defect with
        | some defect => .error (.malformed defect)
        | none => .ok g.files := by
  obtain ⟨events, defect⟩ := log
  induction events generalizing r g with
  | nil =>
    rw [collect_eq]
    cases defect with
    | none =>
      cases h with
      | done hnext => rw [hnext]; rfl
    | some defect =>
      cases h with
      | more hnext => rw [hnext]; rfl
  | cons event events ih =>
    cases h with
    | more hnext hrest =>
      rw [collect_eq, hnext]
      simp only [List.foldlM_cons]
      cases g.record aspect event with
      | error label => rfl
      | ok g => exact ih g hrest

/-- **Reading and recording by turns comes to the same** as reading the log first. -/
theorem collect_start (aspect : String) (bytes : List UInt8) :
    (start bytes).collect aspect .empty = harvest aspect (.ofBytes bytes) :=
  collect_of_yields .empty (yields_items bytes 0)

end Reader

/-- **The harvest of a log.** A reader of the log gives its events and then its defect, if there is
one. If the aspect failed for a target, the harvest names the first such target, whatever comes
after it in the log; else, if the log has a defect, it says so; else it gives, in the order of
their bytes, the files that belong to the graph of all events. It is the same when the events are
read by and by, and nothing but their essence matters. -/
theorem harvest_ofBytes (aspect : String) (bytes : List UInt8) :
    Reader.Yields (.start bytes) (EventLog.ofBytes bytes).items ∧
      (match (EventLog.ofBytes bytes).events.findSome? (failure? aspect),
        (EventLog.ofBytes bytes).defect with
      | some label, _ => harvest aspect (.ofBytes bytes) = .error (.failedTarget label)
      | none, some defect => harvest aspect (.ofBytes bytes) = .error (.malformed defect)
      | none, none => ∃ files, harvest aspect (.ofBytes bytes) = .ok files ∧
          (files.Pairwise fun a b => Text.encode a.toList < Text.encode b.toList) ∧
          ∀ file, file ∈ files ↔
            FileSetGraph.Listed ((EventLog.ofBytes bytes).events.map (.record aspect)) file) ∧
      (Reader.start bytes).collect aspect .empty = harvest aspect (.ofBytes bytes) ∧
      harvest aspect ⟨(EventLog.ofBytes bytes).events.filterMap (essence? aspect),
        (EventLog.ofBytes bytes).defect⟩ = harvest aspect (.ofBytes bytes) := by
  refine ⟨Reader.yields_items bytes 0, ?_, Reader.collect_start aspect bytes,
    harvest_essence aspect _⟩
  rw [harvest_eq]
  split
  · rfl
  · rfl
  · exact ⟨_, rfl, FileSetGraph.files_increasing _, fun _ => FileSetGraph.mem_files_after⟩

end Build
end PackageListing
