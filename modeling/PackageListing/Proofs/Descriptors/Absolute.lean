/-
# The paths of a descriptor, made absolute

A relative path of a descriptor is taken from the execution root where it begins with `external/`,
and from the workspace root otherwise (`isPlaced_absolutePath`). What is taken from a root stands
after it with one slash between the two, which may be the last character of the root
(`Path.isTakenFrom_join`), so it is absolute whatever it is: empty, with full stops, with a slash at
its end. An absolute path stays as it is, so a descriptor that was made absolute once stays as it is
from then on, whatever the roots are (`absolute_absolute`). The main statement is `absolute_places`.
-/

import PackageListing.Proofs.Loading
import PackageListing.Proofs.Path

namespace PackageListing

namespace Path

/-- `taken` is `path` below `base`: one slash stands between the two, and it may be the last
character of `base`. -/
def IsTakenFrom (base path taken : String) : Prop :=
  ∃ front, taken.toList = front ++ '/' :: path.toList ∧
    (base.toList = front ++ ['/'] ∨ base.toList = front ∧ front.getLast? ≠ some '/')

/-- **To join a relative path to a base** is to take it from there. -/
theorem isTakenFrom_join {base path : String} (hbase : base ≠ "")
    (hpath : isAbsolute path = false) : IsTakenFrom base path (join base path) := by
  obtain ⟨front, c, hconcat⟩ := exists_concat_of_ne_empty hbase
  have htext := toList_join_concat hconcat hpath
  by_cases hc : c = '/'
  · subst hc
    rw [if_pos rfl, hconcat, List.append_assoc] at htext
    exact ⟨front, htext, .inl hconcat⟩
  · rw [if_neg hc] at htext
    refine ⟨base.toList, htext, .inr ⟨rfl, ?_⟩⟩
    rw [hconcat, List.getLast?_concat]
    exact fun h => hc (Option.some.inj h)

end Path

namespace Descriptors

/-- What a path of a descriptor becomes, given the roots. -/
inductive IsPlaced (workspace execution path : String) : String → Prop
  /-- An absolute path stays as it is. -/
  | absolute (h : Path.isAbsolute path) : IsPlaced workspace execution path path
  /-- What is external is taken from the execution root. -/
  | external {placed : String} (hexternal : "external/".toList <+: path.toList)
    (h : Path.IsTakenFrom execution path placed) : IsPlaced workspace execution path placed
  /-- All else is taken from the workspace root. -/
  | inner {placed : String} (hrelative : ¬Path.isAbsolute path)
    (hinner : ¬"external/".toList <+: path.toList) (h : Path.IsTakenFrom workspace path placed) :
    IsPlaced workspace execution path placed

/-- All paths of a descriptor, in the order of its fields. -/
def pathLists (p : Package) : List (List String) :=
  [p.goFiles, p.compiledGoFiles, p.otherFiles, p.exportFile.toList]

section Roots

variable {workspace execution : String} (hworkspace : Path.isAbsolute workspace)
  (hexecution : Path.isAbsolute execution)

include hworkspace hexecution

theorem isPlaced_absolutePath (path : String) :
    IsPlaced workspace execution path (absolutePath workspace execution path) := by
  rw [absolutePath]
  split
  · next habsolute => exact .absolute habsolute
  · next hrelative =>
    have hpath : Path.isAbsolute path = false := Bool.eq_false_iff.2 hrelative
    split
    · next hstart =>
      obtain ⟨rest, hrest⟩ := Option.isSome_iff_exists.1 hstart
      refine .external ⟨rest, (Text.afterStart?_eq_some.1 hrest).symm⟩ ?_
      exact Path.isTakenFrom_join (Path.ne_empty_of_isAbsolute hexecution) hpath
    · next hstart =>
      refine .inner hrelative ?_ ?_
      · rintro ⟨rest, hrest⟩
        exact hstart (Option.isSome_iff_exists.2 ⟨rest, Text.afterStart?_eq_some.2 hrest.symm⟩)
      · exact Path.isTakenFrom_join (Path.ne_empty_of_isAbsolute hworkspace) hpath

theorem forall₂_isPlaced (paths : List String) :
    List.Forall₂ (IsPlaced workspace execution) paths
      (paths.map (absolutePath workspace execution)) :=
  List.forall₂_map_right_iff.2
    (List.forall₂_same.2 fun path _ => isPlaced_absolutePath hworkspace hexecution path)

/-- **A descriptor that is absolute stays as it is,** whatever the roots are. -/
theorem absolute_absolute (workspace' execution' : String) (p : Package) :
    absolute workspace' execution' (absolute workspace execution p) =
      absolute workspace execution p := by
  have hpath : absolutePath workspace' execution' ∘ absolutePath workspace execution =
      absolutePath workspace execution :=
    funext fun path => if_pos (isAbsolutePathOf_absolutePath hworkspace hexecution path).1
  simp only [absolute, List.map_map, Option.map_map, hpath]

/-- **Each path of a descriptor is placed below its root,** in the order and number that there were,
and nothing else in the descriptor changes. To do so again changes nothing, with any roots. -/
theorem absolute_places (p : Package) :
    IsAbsoluteFormOf p (absolute workspace execution p) ∧
      List.Forall₂ (List.Forall₂ (IsPlaced workspace execution)) (pathLists p)
        (pathLists (absolute workspace execution p)) ∧
      ∀ workspace' execution', absolute workspace' execution' (absolute workspace execution p) =
        absolute workspace execution p := by
  have hplaced := forall₂_isPlaced hworkspace hexecution
  refine ⟨isAbsoluteFormOf_absolute hworkspace hexecution p, ?_, fun workspace' execution' =>
    absolute_absolute hworkspace hexecution workspace' execution' p⟩
  have hexport : (absolute workspace execution p).exportFile.toList =
      p.exportFile.toList.map (absolutePath workspace execution) :=
    Option.toList_map
  rw [pathLists, pathLists, hexport]
  exact .cons (hplaced _) (.cons (hplaced _) (.cons (hplaced _) (.cons (hplaced _) .nil)))

end Roots

/-- A descriptor with paths of all kinds. -/
def scatteredPackage : Package :=
  { (default : Package) with
    id := "//a:a"
    goFiles := ["/abs/a.go", "a/b.go", ""]
    compiledGoFiles := ["external/x/c.go"]
    otherFiles := ["./../d.s", "externals/"]
    exportFile := some "external/" }

/-- The same descriptor, with its paths below a root that ends in a slash and one that does not. -/
def gatheredPackage : Package :=
  { scatteredPackage with
    goFiles := ["/abs/a.go", "/ws/a/b.go", "/ws/"]
    compiledGoFiles := ["/exec/external/x/c.go"]
    otherFiles := ["/ws/./../d.s", "/ws/externals/"]
    exportFile := some "/exec/external/" }

theorem absolute_scattered :
    absolute "/ws/" "/exec" scatteredPackage = gatheredPackage ∧
      IsAbsoluteFormOf scatteredPackage gatheredPackage ∧
      absolute "." "x" gatheredPackage = gatheredPackage := by
  have h : absolute "/ws/" "/exec" scatteredPackage = gatheredPackage := by decide +kernel
  have hworkspace : Path.isAbsolute "/ws/" = true := rfl
  have hexecution : Path.isAbsolute "/exec" = true := rfl
  obtain ⟨hform, -, hagain⟩ := absolute_places hworkspace hexecution scatteredPackage
  rw [h] at hform hagain
  exact ⟨h, hform, hagain "." "x"⟩

end Descriptors
end PackageListing
