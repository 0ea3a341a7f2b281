/-
# A path and its parents

What holds a path has all its components but the last one (`exists_components_of_parent?`), so the
components of a path begin with those of all its parents (`components_isPrefix_of_mem_ancestors`).
The path of a place is held by the path of the place without its last name (`parent?_path`), and so
the parents of the path are those of the initial runs of names, the longest first
(`ancestors_path`): from the path of a place, all directories on the way to it are reached, and the
root in the end.
-/

import Mathlib.Data.List.Infix
import PackageListing.Files.Tree
import PackageListing.Proofs.Path

namespace PackageListing
namespace Path

open FileTree (Place)

variable {path p : String} {steps : Nat} {place : Place}

/-! ### Components -/

theorem components_isPrefix_of_parent? (h : parent? path = some p) :
    components p <+: components path := by
  by_cases hp : p = ""
  · rw [hp]
    exact List.nil_prefix
  · obtain ⟨c, hc⟩ := exists_components_of_parent? h hp
    exact ⟨[c], hc.symm⟩

theorem components_isPrefix_of_mem_ancestorsFrom (h : p ∈ ancestorsFrom path steps) :
    components p <+: components path := by
  induction steps generalizing path with
  | zero =>
    rw [List.mem_singleton.1 h]
  | succ steps ih =>
    rw [ancestorsFrom] at h
    split at h
    · next parent hparent =>
      rcases List.mem_cons.1 h with rfl | hmem
      · exact List.prefix_rfl
      · exact (ih hmem).trans (components_isPrefix_of_parent? hparent)
    · rw [List.mem_singleton.1 h]

/-- **The parents of a path** have components that it begins with. -/
theorem components_isPrefix_of_mem_ancestors (h : p ∈ ancestors path) :
    components p <+: components path :=
  components_isPrefix_of_mem_ancestorsFrom h

/-- A path that has a component is absolute if what it holds is so. -/
theorem isAbsolute_of_components_isPrefix (h : components p <+: components path)
    (hne : components p ≠ []) : isAbsolute p = isAbsolute path := by
  rw [isAbsolute_eq_contains, isAbsolute_eq_contains, Bool.eq_iff_iff, List.contains_iff_mem,
    List.contains_iff_mem]
  refine ⟨fun hroot => h.subset hroot, fun hroot => ?_⟩
  -- The root stands before all other components.
  have hfirst : .root ∈ startComponents (cuts path) := by
    rw [components_eq, List.mem_append] at hroot
    exact hroot.resolve_right (root_not_mem_filterMap (cuts path))
  have hstart : startComponents (cuts path) = [.root] := by
    revert hfirst
    rw [startComponents]
    split
    · simp
    · split
      · simp
      · simp
  rw [components_eq path, hstart] at h
  obtain ⟨c, rest, hc⟩ := List.exists_cons_of_ne_nil hne
  rw [hc, List.singleton_append, List.cons_prefix_cons] at h
  rw [hc, h.1]
  exact List.mem_cons_self

/-! ### Paths of places -/

theorem isSilent_of_isName {name : String} (h : IsName name) : isSilent name.toList = false := by
  rw [isSilent, component?_of_isName h]
  rfl

theorem splitOn_drop_path (hne : place ≠ []) (hnames : ∀ name ∈ place, IsName name) :
    ((Place.path place).toList.drop 1).splitOn '/' = place.map String.toList := by
  have htext : (Place.path place).toList.drop 1 = ("/".intercalate place).toList := by
    rw [Place.path, String.toList_append]
    rfl
  rw [htext]
  exact cuts_intercalate hne fun name hname => (hnames name hname).2.2.2

theorem start_path (place : Place) : start (Place.path place).toList = ['/'] := by
  rw [Place.path, String.toList_append]
  rfl

/-- **What holds a place** is the place without its last name. -/
theorem parent?_path {name : String} (hname : IsName name)
    (hnames : ∀ name ∈ place, IsName name) :
    parent? (Place.path (place ++ [name])) = some (Place.path place) := by
  have hplace : ∀ other ∈ place ++ [name], IsName other :=
    List.forall_mem_append.2 ⟨hnames, List.forall_mem_singleton.2 hname⟩
  have hkept : ((place.map String.toList).reverse.dropWhile isSilent).reverse =
      place.map String.toList := by
    rcases List.eq_nil_or_concat place with rfl | ⟨front, last, rfl⟩
    · rfl
    · rw [List.concat_eq_append] at hnames ⊢
      have hlast := hnames last (List.mem_append_right _ (List.mem_singleton_self last))
      rw [List.map_append, List.map_singleton, List.reverse_append, List.reverse_singleton,
        List.singleton_append, List.dropWhile_cons_of_neg (by simp [isSilent_of_isName hlast]),
        List.reverse_cons, List.reverse_reverse]
  have htext : ['/'] ++ ['/'].intercalate (place.map String.toList) =
      (Place.path place).toList := by
    rw [Place.path, String.toList_append, String.toList_intercalate]
    rfl
  simp only [parent?, start_path, List.length_singleton]
  rw [splitOn_drop_path (by simp) hplace, List.map_append, List.map_singleton, List.reverse_append,
    List.reverse_singleton, List.singleton_append,
    List.dropWhile_cons_of_neg (by simp [isSilent_of_isName hname])]
  simp only [hkept, htext, String.ofList_toList]

theorem ancestorsFrom_path (hnames : ∀ name ∈ place, IsName name) (hsteps : place.length ≤ steps) :
    ancestorsFrom (Place.path place) steps = place.inits.reverse.map Place.path := by
  induction place using List.reverseRecOn generalizing steps with
  | nil =>
    have hroot : parent? (Place.path []) = none := by decide
    cases steps with
    | zero => rfl
    | succ steps => rw [ancestorsFrom, hroot]; rfl
  | append_singleton place name ih =>
    rw [List.forall_mem_append, List.forall_mem_singleton] at hnames
    obtain ⟨steps, rfl⟩ : ∃ more, steps = more + 1 := by
      refine ⟨steps - 1, ?_⟩
      rw [List.length_append, List.length_singleton] at hsteps
      omega
    have hplace : place.length ≤ steps := by
      rw [List.length_append, List.length_singleton] at hsteps
      omega
    rw [ancestorsFrom, parent?_path hnames.2 hnames.1]
    simp only
    rw [ih hnames.1 hplace, List.inits_append]
    simp

theorem length_le_length_intercalate (texts : List (List Char)) :
    texts.length ≤ (['/'].intercalate texts).length + 1 := by
  induction texts with
  | nil => exact Nat.zero_le _
  | cons first texts ih =>
    cases texts with
    | nil => rw [List.length_singleton]; exact Nat.le_add_left 1 _
    | cons second texts =>
      rw [List.intercalate_cons_cons, List.length_append, List.length_append, List.length_singleton,
        List.length_cons]
      omega

/-- The path of a place has a character for each name. -/
theorem length_le_length_path (place : Place) : place.length ≤ (Place.path place).length := by
  have htext := length_le_length_intercalate (place.map String.toList)
  rw [List.length_map] at htext
  rw [← String.length_toList, Place.path, String.toList_append, String.toList_intercalate,
    List.length_append]
  exact htext.trans (Nat.add_comm _ 1).le

/-- **The parents of the path of a place** are the directories on the way to it, upward. -/
theorem ancestors_path (hnames : ∀ name ∈ place, IsName name) :
    ancestors (Place.path place) = place.inits.reverse.map Place.path :=
  ancestorsFrom_path hnames (length_le_length_path place)

end Path
end PackageListing
