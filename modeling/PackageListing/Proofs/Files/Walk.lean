/-
# The places that a walk comes to

A walk below a directory comes to places below it, by the paths that these have there
(`FileTree.visits_eq`). Where the entries of each directory have distinct names, it comes to all
places, but for those under the name that is left out (`FileTree.mem_walkPlaces_iff`), and to each
once and after all that are less, name by name (`FileTree.pairwise_walkPlaces`). The same goes for
the regular files among them (`FileTree.mem_filePlaces_iff`, `FileTree.pairwise_filePlaces`). So
where a directory stores some files, these are the files that a walk comes to
(`FileTree.Stores.perm_filePlaces`).
-/

import Mathlib.Data.List.Sort
import Mathlib.Data.String.Basic
import PackageListing.Proofs.Files.Storing

namespace PackageListing
namespace FileTree

mutual

/-- The places that a walk comes to, in its order, each with what is there. -/
def walkPlaces (skip : String) : FileTree → List (Place × FileTree)
  | .file contents => [([], .file contents)]
  | .program name => [([], .program name)]
  | .link target => [([], .link target)]
  | .directory entries =>
    ([], .directory entries) ::
      ((walkPlacesIn skip entries).mergeSort fun a b => decide (a.1 ≤ b.1)).flatMap fun e =>
        e.2.map fun v => (e.1 :: v.1, v.2)

/-- The places in each entry of a directory, by the name of the entry. -/
def walkPlacesIn (skip : String) :
    List (String × FileTree) → List (String × List (Place × FileTree))
  | [] => []
  | (name, t) :: entries =>
    let others := walkPlacesIn skip entries
    if name = skip then others else (name, walkPlaces skip t) :: others

end

/-- The places of the regular files that a walk comes to. -/
def filePlaces (skip : String) (t : FileTree) : List Place :=
  ((walkPlaces skip t).filter fun v => v.2.isRegular).map Prod.fst

/-- The path of a member of a directory, as a walk has it. -/
def memberPath (path name : String) : String :=
  path ++ (if path.toList.getLast? = some '/' then "" else "/") ++ name

/-- The path of what is at a place below a directory, as a walk has it. -/
def pathBelow (path : String) (place : Place) : String :=
  place.foldl memberPath path

mutual

/-- **A walk comes to places** by the paths that they have below the directory. -/
theorem visits_eq (skip : String) : ∀ (t : FileTree) (path : String),
    visits skip path t = (walkPlaces skip t).map fun v => (pathBelow path v.1, v.2)
  | .directory entries, path => by
    have hsort : ((walkPlacesIn skip entries).mergeSort fun a b => decide (a.1 ≤ b.1)).map
        (fun e => (e.1, e.2.map fun v => (pathBelow path (e.1 :: v.1), v.2))) =
          (visitsIn skip path entries).mergeSort fun a b => decide (a.1 ≤ b.1) := by
      rw [visitsIn_eq skip entries path]
      exact List.map_mergeSort fun _ _ _ _ => rfl
    rw [visits, walkPlaces, ← hsort, List.flatMap_map, List.map_cons, List.map_flatMap]
    refine congrArg _ (List.flatMap_congr fun e _ => ?_)
    rw [List.map_map]
    rfl
  | .file _, _ => by rw [visits, walkPlaces]; rfl
  | .program _, _ => by rw [visits, walkPlaces]; rfl
  | .link _, _ => by rw [visits, walkPlaces]; rfl

theorem visitsIn_eq (skip : String) : ∀ (entries : List (String × FileTree)) (path : String),
    visitsIn skip path entries = (walkPlacesIn skip entries).map fun e =>
      (e.1, e.2.map fun v => (pathBelow path (e.1 :: v.1), v.2))
  | [], _ => by rw [visitsIn, walkPlacesIn]; rfl
  | (name, t) :: entries, path => by
    rw [visitsIn, walkPlacesIn, visitsIn_eq skip entries path]
    split
    · rfl
    · rw [List.map_cons]
      exact congrArg (fun found => (name, found) :: _) (visits_eq skip t (memberPath path name))

end

/-- The files that a walk comes to have the paths of their places. -/
theorem walk_eq (skip : String) (t : FileTree) (path : String) :
    walk skip path t = (filePlaces skip t).map (pathBelow path) := by
  rw [walk, visits_eq, filePlaces, List.filter_map, List.map_map, List.map_map]
  rfl

/-! ### Which places these are -/

/-- The entries of each directory in a tree have distinct names, but for one that is left out. -/
def Distinct (skip : String) (t : FileTree) : Prop :=
  ∀ place entries, skip ∉ place → t.at? place = some (.directory entries) →
    (namesBut skip entries).Nodup

variable {skip name : String} {t s : FileTree} {entries : List (String × FileTree)}
  {place : Place}

theorem walkPlacesIn_eq (skip : String) (entries : List (String × FileTree)) :
    walkPlacesIn skip entries =
      (entries.filter fun e => e.1 ≠ skip).map fun e => (e.1, walkPlaces skip e.2) := by
  induction entries with
  | nil => rw [walkPlacesIn]; rfl
  | cons e entries ih =>
    rw [walkPlacesIn, ih, List.filter_cons]
    by_cases he : e.1 = skip
    · rw [if_pos he, if_neg (by simpa using he)]
    · rw [if_neg he, if_pos (by simpa using he), List.map_cons]

theorem map_fst_walkPlacesIn (skip : String) (entries : List (String × FileTree)) :
    (walkPlacesIn skip entries).map Prod.fst = namesBut skip entries := by
  rw [walkPlacesIn_eq, List.map_map, namesBut, List.filter_map]
  rfl

/-- A name that only one entry has stands for this entry. -/
theorem mem_iff_lookup (hdistinct : (namesBut skip entries).Nodup) (hname : name ≠ skip) :
    (name, t) ∈ entries ↔ entries.lookup name = some t := by
  refine ⟨fun hmem => ?_, mem_of_lookup⟩
  obtain ⟨before, after, rfl⟩ := List.append_of_mem hmem
  rw [namesBut, List.map_append, List.map_cons, List.filter_append,
    List.filter_cons_of_pos (by simpa using hname), List.nodup_append] at hdistinct
  refine List.lookup_eq_some_iff.2 ⟨before, after, rfl, fun e he => ?_⟩
  refine bne_iff_ne.2 fun heq => ?_
  have hbefore : name ∈ (before.map Prod.fst).filter (· ≠ skip) :=
    List.mem_filter.2 ⟨heq ▸ List.mem_map_of_mem he, by simpa using hname⟩
  exact hdistinct.2.2 name hbefore name List.mem_cons_self rfl

theorem Distinct.of_lookup (h : Distinct skip (.directory entries)) (hname : name ≠ skip)
    (hlookup : entries.lookup name = some t) : Distinct skip t := by
  intro place entries' hplace hat
  refine h (name :: place) entries' ?_ ?_
  · exact fun hmem => (List.mem_cons.1 hmem).elim (Ne.symm hname) hplace
  · rw [at?_directory, hlookup]
    exact hat

/-- **A walk comes to all places,** but for those under the name that is left out. -/
theorem mem_walkPlaces_iff (h : Distinct skip t) :
    (place, s) ∈ walkPlaces skip t ↔ skip ∉ place ∧ t.at? place = some s := by
  induction place generalizing t with
  | nil =>
    cases t <;> simp [walkPlaces, at?_nil, eq_comm]
  | cons name place ih =>
    cases t with
    | directory entries =>
      have hnames : (namesBut skip entries).Nodup := h [] entries List.not_mem_nil (at?_nil _)
      have hmem : (name :: place, s) ∈ walkPlaces skip (.directory entries) ↔
          name ≠ skip ∧ ∃ child, (name, child) ∈ entries ∧ (place, s) ∈ walkPlaces skip child := by
        simp only [walkPlaces, walkPlacesIn_eq, List.mem_cons, Prod.mk.injEq, reduceCtorEq,
          false_and, false_or, List.mem_flatMap, List.mem_mergeSort, List.mem_map, List.mem_filter,
          decide_eq_true_eq]
        constructor
        · rintro ⟨_, ⟨e, ⟨he, hskip⟩, rfl⟩, v, hv, heq, rfl⟩
          obtain ⟨rfl, rfl⟩ := List.cons.inj heq
          exact ⟨hskip, e.2, he, hv⟩
        · rintro ⟨hskip, child, hchild, hplace⟩
          exact ⟨_, ⟨(name, child), ⟨hchild, hskip⟩, rfl⟩, _, hplace, rfl, rfl⟩
      rw [hmem, List.mem_cons, not_or, at?_directory]
      constructor
      · rintro ⟨hskip, child, hchild, hplace⟩
        have hlookup := (mem_iff_lookup hnames hskip).1 hchild
        obtain ⟨hnot, hs⟩ := (ih (h.of_lookup hskip hlookup)).1 hplace
        exact ⟨⟨Ne.symm hskip, hnot⟩, by rw [hlookup]; exact hs⟩
      · rintro ⟨⟨hskip, hnot⟩, hs⟩
        obtain ⟨child, hlookup, hat⟩ := Option.bind_eq_some_iff.1 hs
        have hdistinct := h.of_lookup (Ne.symm hskip) hlookup
        exact ⟨Ne.symm hskip, child, mem_of_lookup hlookup, (ih hdistinct).2 ⟨hnot, hat⟩⟩
    | file _ | program _ | link _ => simp [walkPlaces, at?]

/-- **A walk comes to all regular files,** but for those under the name that is left out. -/
theorem mem_filePlaces_iff (h : Distinct skip t) :
    place ∈ filePlaces skip t ↔ skip ∉ place ∧ ∃ s, t.at? place = some s ∧ s.isRegular = true := by
  rw [filePlaces, List.mem_map]
  constructor
  · rintro ⟨⟨place, s⟩, hv, rfl⟩
    obtain ⟨hv, hregular⟩ := List.mem_filter.1 hv
    obtain ⟨hskip, hat⟩ := (mem_walkPlaces_iff h).1 hv
    exact ⟨hskip, s, hat, hregular⟩
  · rintro ⟨hskip, s, hat, hregular⟩
    exact ⟨(place, s), List.mem_filter.2 ⟨(mem_walkPlaces_iff h).2 ⟨hskip, hat⟩, hregular⟩, rfl⟩

/-! ### In which order -/

theorem pairwise_mergeSort_of_nodup {α : Type} {l : List (String × α)}
    (h : (l.map Prod.fst).Nodup) :
    (l.mergeSort fun a b => decide (a.1 ≤ b.1)).Pairwise fun a b => a.1 < b.1 := by
  have hsorted : (l.mergeSort fun a b => decide (a.1 ≤ b.1)).Pairwise
      fun a b => decide (a.1 ≤ b.1) = true := by
    refine List.pairwise_mergeSort (fun a b c hab hbc => ?_) (fun a b => ?_) l
    · rw [decide_eq_true_eq] at hab hbc ⊢
      exact le_trans hab hbc
    · rw [Bool.or_eq_true, decide_eq_true_eq, decide_eq_true_eq]
      exact le_total a.1 b.1
  have hdistinct : (l.mergeSort fun a b => decide (a.1 ≤ b.1)).Pairwise fun a b => a.1 ≠ b.1 :=
    List.pairwise_map.1 (((List.mergeSort_perm l _).map Prod.fst).nodup_iff.2 h)
  refine (hsorted.and hdistinct).imp fun hab => ?_
  exact lt_of_le_of_ne (of_decide_eq_true hab.1) hab.2

mutual

/-- **A walk goes from less to greater places.** -/
theorem pairwise_walkPlaces : ∀ {t : FileTree}, Distinct skip t →
    (walkPlaces skip t).Pairwise fun a b => a.1 < b.1
  | .directory entries, h => by
    have hnames : (namesBut skip entries).Nodup := h [] entries List.not_mem_nil (at?_nil _)
    have hbelow : ∀ e ∈ walkPlacesIn skip entries, e.2.Pairwise fun a b => a.1 < b.1 :=
      pairwise_walkPlacesIn fun name child hmem hskip =>
        h.of_lookup hskip ((mem_iff_lookup hnames hskip).1 hmem)
    rw [walkPlaces, List.pairwise_cons, List.pairwise_flatMap]
    refine ⟨fun v hv => ?_, fun e he => ?_, ?_⟩
    · obtain ⟨e, -, hv⟩ := List.mem_flatMap.1 hv
      obtain ⟨_, -, rfl⟩ := List.mem_map.1 hv
      exact .nil
    · exact List.pairwise_map.2 ((hbelow e (List.mem_mergeSort.1 he)).imp .cons)
    · rw [← map_fst_walkPlacesIn] at hnames
      refine (pairwise_mergeSort_of_nodup hnames).imp fun hab a ha b hb => ?_
      obtain ⟨_, -, rfl⟩ := List.mem_map.1 ha
      obtain ⟨_, -, rfl⟩ := List.mem_map.1 hb
      exact .rel hab
  | .file _, _ => by rw [walkPlaces]; exact List.pairwise_singleton _ _
  | .program _, _ => by rw [walkPlaces]; exact List.pairwise_singleton _ _
  | .link _, _ => by rw [walkPlaces]; exact List.pairwise_singleton _ _

theorem pairwise_walkPlacesIn : ∀ {entries : List (String × FileTree)},
    (∀ name child, (name, child) ∈ entries → name ≠ skip → Distinct skip child) →
    ∀ e ∈ walkPlacesIn skip entries, e.2.Pairwise fun a b => a.1 < b.1
  | [], _ => by rw [walkPlacesIn]; exact List.forall_mem_nil _
  | (name, t) :: entries, h => by
    have hothers := pairwise_walkPlacesIn fun name' child hmem =>
      h name' child (List.mem_cons_of_mem _ hmem)
    rw [walkPlacesIn]
    split
    · exact hothers
    · next hskip =>
      exact List.forall_mem_cons.2
        ⟨pairwise_walkPlaces (h name t List.mem_cons_self hskip), hothers⟩

end

theorem pairwise_filePlaces (h : Distinct skip t) : (filePlaces skip t).Pairwise (· < ·) :=
  List.pairwise_map.2 ((pairwise_walkPlaces h).filter _)

/-! ### What a walk finds of what is stored -/

/-- What is stored has distinct names. -/
theorem Stores.distinct_directory {tree : FileTree} {base : Place}
    {written : List (Place × List UInt8)} (h : Stores skip tree base written)
    (hat : tree.at? base = some (.directory entries)) : Distinct skip (.directory entries) := by
  intro place entries' hplace hs
  refine h.distinct hplace ?_
  rw [at?_append, hat, Option.bind_some]
  exact hs

/-- **A walk comes to what is stored,** from less to greater places. -/
theorem Stores.perm_filePlaces {tree : FileTree} {base : Place}
    {written : List (Place × List UInt8)} (h : Stores skip tree base written)
    (hnodup : (written.map Prod.fst).Nodup)
    (hat : tree.at? base = some (.directory entries)) :
    (filePlaces skip (.directory entries)).Perm (written.map Prod.fst) ∧
      (filePlaces skip (.directory entries)).Pairwise (· < ·) := by
  have hbelow : ∀ place, (FileTree.directory entries).at? place = tree.at? (base ++ place) := by
    intro place
    rw [at?_append, hat, Option.bind_some]
  have hdistinct : Distinct skip (.directory entries) := h.distinct_directory hat
  have hsorted := pairwise_filePlaces hdistinct
  refine ⟨(List.perm_ext_iff_of_nodup (hsorted.imp ne_of_lt) hnodup).2 fun place => ?_, hsorted⟩
  rw [mem_filePlaces_iff hdistinct, hbelow]
  constructor
  · rintro ⟨hplace, s, hs, hregular⟩
    rcases h.only hplace hs with hkind | ⟨contents, -, hmem⟩
    · obtain ⟨_, rfl⟩ := kind_eq_directory.1 hkind
      cases hregular
    · exact List.mem_map_of_mem hmem
  · intro hmem
    obtain ⟨⟨_, contents⟩, hstored, rfl⟩ := List.mem_map.1 hmem
    obtain ⟨hplace, hs⟩ := h.all hstored
    exact ⟨hplace, _, hs, rfl⟩

end FileTree
end PackageListing
