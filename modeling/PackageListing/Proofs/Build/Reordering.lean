/-
# Events in any order

A graph remembers the order of the steps of a client in two ways only: its roots stand in that
order, and of two definitions of one set it has the later. Where no two steps define one set
(`FileSetGraph.Step.Apart`) the one definition of a set is its latest, wherever it stands
(`FileSetGraph.latest_iff`), so which sets a root leads to, and which files those list, does not
depend on the order (`FileSetGraph.files_after_perm`). For a build whose targets the aspect
completed, and which announces no set twice, this says that a set may be announced before or after
all that refers to it (`files_reordered`).
-/

import PackageListing.Proofs.Build.Harvest
import Mathlib.Data.List.Sort

namespace PackageListing
namespace Build

namespace FileSetGraph

variable {steps steps' : List Step}

/-- The steps do not define one set. -/
def Step.Apart (s t : Step) : Prop :=
  ∀ id set set', s.Defines id set → ¬t.Defines id set'

theorem Step.Apart.symm {s t : Step} (h : s.Apart t) : t.Apart s :=
  fun id set set' ht hs => h id set' set hs ht

/-- **The one definition of a set is its latest.** -/
theorem latest_iff (hapart : steps.Pairwise Step.Apart) {id : String} {set : FileSet} :
    Latest steps id set ↔ ∃ step ∈ steps, step.Defines id set := by
  constructor
  · rintro ⟨earlier, step, later, rfl, hdefines, -⟩
    exact ⟨step, List.mem_append_right _ List.mem_cons_self, hdefines⟩
  · rintro ⟨step, hstep, hdefines⟩
    obtain ⟨earlier, later, rfl⟩ := List.append_of_mem hstep
    have hlater := (List.pairwise_cons.1 (List.pairwise_append.1 hapart).2.1).1
    exact ⟨earlier, step, later, rfl, hdefines, fun t ht s => hlater t ht id set s hdefines⟩

/-- What a step does, some step does in any order. -/
theorem exists_mem_congr (hperm : steps'.Perm steps) (does : Step → Prop) :
    (∃ step ∈ steps', does step) ↔ ∃ step ∈ steps, does step := by
  simp only [hperm.mem_iff]

theorem latest_perm (hperm : steps'.Perm steps) (hapart : steps.Pairwise Step.Apart) {id : String}
    {set : FileSet} : Latest steps' id set ↔ Latest steps id set := by
  have hapart' : steps'.Pairwise Step.Apart := hapart.perm hperm.symm Step.Apart.symm
  rw [latest_iff hapart', latest_iff hapart, exists_mem_congr hperm]

theorem listed_perm (hperm : steps'.Perm steps) (hapart : steps.Pairwise Step.Apart)
    {file : String} : Listed steps' file ↔ Listed steps file := by
  have hchild : Child steps' = Child steps := by
    funext a b
    simp only [Child, latest_perm hperm hapart]
  simp only [Listed, exists_mem_congr hperm, hchild, latest_perm hperm hapart]

/-- **The files of a graph do not depend on the order of the steps,** where no two of them define
one set. -/
theorem files_after_perm (hperm : steps'.Perm steps) (hapart : steps.Pairwise Step.Apart) :
    (after steps').files = (after steps).files := by
  refine List.Pairwise.eq_of_mem_iff (Names.sorted_pairwise _) (Names.sorted_pairwise _) fun file => ?_
  exact mem_files_after.trans ((listed_perm hperm hapart).trans mem_files_after.symm)

end FileSetGraph

/-- The set that an event announces. An event that tells of a target does not announce one. -/
def Event.announced? : Event → Option String
  | ⟨some ⟨none, set⟩, _, _⟩ => set
  | _ => none

theorem Event.announced?_of_defines {aspect : String} {event : Event} {id : String} {set : FileSet}
    (h : (FileSetGraph.Step.record aspect event).Defines id set) : event.announced? = some id := by
  cases h with
  | @announced _ _ i _ hi htarget hset =>
    obtain ⟨_, completed, fileSet⟩ := event
    obtain rfl : _ = some i := hi
    obtain ⟨_, _⟩ := i
    obtain rfl : _ = none := htarget
    exact hset

theorem pairwise_apart {events : List Event} (aspect : String)
    (honce : (events.filterMap Event.announced?).Nodup) :
    (events.map (.record aspect)).Pairwise FileSetGraph.Step.Apart := by
  refine List.pairwise_map.2 ((List.pairwise_filterMap.1 honce).imp ?_)
  intro e f h id set set' hs ht
  exact h id (Event.announced?_of_defines hs) id (Event.announced?_of_defines ht) rfl

/-- Where the aspect completed all targets, all events are recorded. -/
theorem foldlM_record_eq_ok {aspect : String} {events : List Event}
    (hbuilt : ∀ event ∈ events, failure? aspect event = none) :
    events.foldlM (FileSetGraph.record aspect) .empty = .ok (graphOf aspect events) := by
  rw [FileSetGraph.foldlM_record, List.findSome?_eq_none_iff.2 hbuilt, graphOf,
    FileSetGraph.after, List.foldl_map]

/-- **The files of a build do not depend on the order of its events,** where the aspect completed
all its targets and no set is announced twice: in any order all events are recorded, in a graph
with the same files. So a harvest gives these files, whether a set is announced before or after the
sets and targets that refer to it. -/
theorem files_reordered {aspect : String} {events events' : List Event}
    (hperm : events'.Perm events) (hbuilt : ∀ event ∈ events, failure? aspect event = none)
    (honce : (events.filterMap Event.announced?).Nodup) :
    ∃ graph graph', events.foldlM (FileSetGraph.record aspect) .empty = .ok graph ∧
      events'.foldlM (FileSetGraph.record aspect) .empty = .ok graph' ∧
      graph'.files = graph.files ∧ harvest aspect ⟨events', none⟩ = .ok graph.files := by
  have hbuilt' : ∀ event ∈ events', failure? aspect event = none :=
    fun event hevent => hbuilt event (hperm.mem_iff.1 hevent)
  have hfiles : (graphOf aspect events').files = (graphOf aspect events).files :=
    FileSetGraph.files_after_perm (hperm.map _) (pairwise_apart aspect honce)
  have hrecorded' := foldlM_record_eq_ok hbuilt'
  refine ⟨_, _, foldlM_record_eq_ok hbuilt, hrecorded', hfiles, ?_⟩
  rw [harvest, hrecorded', ← hfiles]

/-- A target, a set that it produced, and a set that belongs to that set. -/
def forwardEvents : List Event :=
  [⟨some ⟨some ⟨"//a:a", "mine"⟩, none⟩, some ⟨true, [⟨outputGroup, ["r"]⟩]⟩, none⟩,
    ⟨some ⟨none, some "r"⟩, none, some ⟨["b.json"], ["s"]⟩⟩,
    ⟨some ⟨none, some "s"⟩, none, some ⟨["a.json"], []⟩⟩]

theorem files_forward :
    forwardEvents.reverse.Perm forwardEvents ∧
      harvest "mine" ⟨forwardEvents.reverse, none⟩ = .ok ["a.json", "b.json"] := by
  have hperm := forwardEvents.reverse_perm
  obtain ⟨graph, _, hgraph, _, _, hharvest⟩ :=
    @files_reordered "mine" _ _ hperm (by decide +kernel) (by decide +kernel)
  refine ⟨hperm, hharvest.trans ?_⟩
  have hgraphOf : graphOf "mine" forwardEvents =
      ⟨[("s", ⟨["a.json"], []⟩), ("r", ⟨["b.json"], ["s"]⟩)], ["r"]⟩ := by
    decide +kernel
  have hvisits : Traversal.preorder FileSet.fileSets
      [("s", ⟨["a.json"], []⟩), ("r", ⟨["b.json"], ["s"]⟩)] ["r"] =
        [⟨["b.json"], ["s"]⟩, ⟨["a.json"], []⟩] :=
    (Traversal.preorder_of_lookup_eq_some [] rfl).trans <| congrArg _ <|
      (Traversal.preorder_of_lookup_eq_some [] rfl).trans <| congrArg _ Traversal.preorder_nil
  have hfiles : (graphOf "mine" forwardEvents).files = ["a.json", "b.json"] := by
    rw [hgraphOf, FileSetGraph.files, hvisits]
    decide +kernel
  rw [foldlM_record_eq_ok (by decide +kernel)] at hgraph
  cases hgraph
  rw [hfiles]

end Build
end PackageListing
