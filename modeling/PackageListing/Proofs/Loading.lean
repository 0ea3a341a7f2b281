/-
# Descriptors that are loaded

To load the descriptors that some paths stand for is to load all the files that they stand for, one
after the other (`load_eq_ok_iff`). Below a directory these are the files that a walk takes for
descriptors, if all directories on the way can be listed (`filesOf_of_isListed`). The paths in a
descriptor become absolute, where they are not so already, and nothing else in it changes
(`isAbsoluteFormOf_absolute`).
-/

import Mathlib.Data.List.Forall2
import PackageListing.Proofs.Descriptors

namespace PackageListing
namespace Descriptors

/-! ### Absolute paths -/

section Absolute

variable {workspace execution : String} (hworkspace : Path.isAbsolute workspace)
  (hexecution : Path.isAbsolute execution)

/-- `b` is a path in place of `a` that is absolute; what is absolute is not replaced. -/
def IsAbsolutePathOf (a b : String) : Prop :=
  Path.isAbsolute b ∧ (Path.isAbsolute a → b = a)

/-- `q` is `p` with its paths made absolute, and nothing else changed. -/
structure IsAbsoluteFormOf (p q : Package) : Prop where
  unchanged : q = { p with
    goFiles := q.goFiles
    compiledGoFiles := q.compiledGoFiles
    otherFiles := q.otherFiles
    exportFile := q.exportFile }
  goFiles : List.Forall₂ IsAbsolutePathOf p.goFiles q.goFiles
  compiledGoFiles : List.Forall₂ IsAbsolutePathOf p.compiledGoFiles q.compiledGoFiles
  otherFiles : List.Forall₂ IsAbsolutePathOf p.otherFiles q.otherFiles
  exportFile : Option.Rel IsAbsolutePathOf p.exportFile q.exportFile

include hworkspace hexecution

theorem isAbsolutePathOf_absolutePath (path : String) :
    IsAbsolutePathOf path (absolutePath workspace execution path) := by
  rw [absolutePath]
  split
  · next h => exact ⟨h, fun _ => rfl⟩
  · next h =>
    refine ⟨?_, fun habsolute => absurd habsolute h⟩
    split
    · exact Path.isAbsolute_join _ _ hexecution
    · exact Path.isAbsolute_join _ _ hworkspace

theorem forall₂_absolutePath (paths : List String) :
    List.Forall₂ IsAbsolutePathOf paths (paths.map (absolutePath workspace execution)) :=
  List.forall₂_map_right_iff.2
    (List.forall₂_same.2 fun path _ => isAbsolutePathOf_absolutePath hworkspace hexecution path)

/-- **All paths become absolute, and nothing else changes.** -/
theorem isAbsoluteFormOf_absolute (p : Package) :
    IsAbsoluteFormOf p (absolute workspace execution p) where
  unchanged := rfl
  goFiles := forall₂_absolutePath hworkspace hexecution _
  compiledGoFiles := forall₂_absolutePath hworkspace hexecution _
  otherFiles := forall₂_absolutePath hworkspace hexecution _
  exportFile := by
    rw [absolute]
    cases p.exportFile with
    | none => exact .none
    | some path => exact .some (isAbsolutePathOf_absolutePath hworkspace hexecution path)

end Absolute

/-! ### What a path stands for -/

/-- The files of descriptors that a walk below a directory comes to. -/
def filesBelow (tree : FileTree) (path : String) : List String :=
  if Path.components path = [.member "-"] then []
  else (tree.walk cacheName path).filter isDescriptor

/-- The files that a path stands for, where the walk comes to all of them. -/
def filesOf (fs : FileSystem) (path : String) : Except Failure (List String) := do
  (← foundOf fs path).mapM id

/-- Each directory that a walk comes to can be listed. -/
def IsListed (fs : FileSystem) (tree : FileTree) (path : String) : Prop :=
  ∀ v ∈ tree.visits cacheName path, v.2.isDirectory = true → ∃ t, fs.get v.1 = .ok t

section

variable {fs : FileSystem} {tree : FileTree} {path target : String} {files paths : List String}
  {packages : List Package}

theorem found?_of_isListed {v : String × FileTree}
    (h : v.2.isDirectory = true → ∃ t, fs.get v.1 = .ok t) :
    found? fs path v = if v.2.isRegular && isDescriptor v.1 then some (.ok v.1) else none := by
  obtain ⟨place, t⟩ := v
  cases t with
  | directory _ =>
    obtain ⟨t, ht⟩ := h rfl
    simp only [found?, ht]
    rfl
  | file _ | program _ | link _ => rfl

/-- **A walk that can list all directories** comes to the files of descriptors. -/
theorem foundBelow_of_isListed (h : IsListed fs tree path) :
    foundBelow fs tree path = (filesBelow tree path).map .ok := by
  rw [foundBelow, filesBelow]
  split
  · rfl
  · rw [List.filterMap_congr fun v hv => found?_of_isListed (h v hv), FileTree.walk]
    induction tree.visits cacheName path with
    | nil => rfl
    | cons v visits ih =>
      rw [List.filterMap_cons, List.filter_cons, ih]
      by_cases hregular : v.2.isRegular = true
      · by_cases hdescriptor : isDescriptor v.1 = true
        · simp [hregular, hdescriptor]
        · simp [hregular, hdescriptor]
      · simp [hregular]

theorem foundOf_of_isListed (hmarked : (markedDirectory? path).getD path = target)
    (hget : fs.get target = .ok tree) (h : tree.isDirectory = true → IsListed fs tree target) :
    foundOf fs path =
      .ok ((if tree.isDirectory then filesBelow tree target else [target]).map .ok) := by
  rw [foundOf, hmarked]
  refine Result.bind_eq_ok.2 ⟨tree, Result.mapError_eq_ok.2 hget, ?_⟩
  by_cases hdirectory : tree.isDirectory = true
  · rw [if_pos hdirectory, if_pos hdirectory, foundBelow_of_isListed (h hdirectory)]
    rfl
  · rw [if_neg hdirectory, if_neg hdirectory]
    rfl

/-- A path stands for what it leads to, or for the files below it. -/
theorem filesOf_of_isListed (hmarked : (markedDirectory? path).getD path = target)
    (hget : fs.get target = .ok tree) (h : tree.isDirectory = true → IsListed fs tree target) :
    filesOf fs path = .ok (if tree.isDirectory then filesBelow tree target else [target]) := by
  rw [filesOf, foundOf_of_isListed hmarked hget h]
  exact Result.mapM_map_eq_ok fun _ _ => rfl

theorem loadPath_eq_ok_iff : loadPath fs path = .ok packages ↔
    ∃ files, filesOf fs path = .ok files ∧ files.mapM (loadFile fs) = .ok packages := by
  rw [loadPath, Result.bind_eq_ok]
  constructor
  · rintro ⟨found, hfound, h⟩
    obtain ⟨files, hfiles, hload⟩ := Result.mapM_bind_eq_ok_iff.1 h
    exact ⟨files, Result.bind_eq_ok.2 ⟨found, hfound, hfiles⟩, hload⟩
  · rintro ⟨files, hfiles, hload⟩
    obtain ⟨found, hfound, hfiles⟩ := Result.bind_eq_ok.1 hfiles
    exact ⟨found, hfound, Result.mapM_bind_eq_ok_iff.2 ⟨files, hfiles, hload⟩⟩

/-! ### Loading -/

/-- **To load some paths** is to load, one after the other, the files that they stand for. -/
theorem load_eq_ok_iff : load fs paths = .ok packages ↔
    ∃ expanded, paths.mapM (filesOf fs) = .ok expanded ∧
      expanded.flatten.mapM (loadFile fs) = .ok packages := by
  induction paths generalizing packages with
  | nil =>
    constructor
    · exact fun h => ⟨[], rfl, h⟩
    · rintro ⟨_, h, hload⟩
      cases h
      exact hload
  | cons path paths ih =>
    have hcons : load fs (path :: paths) = do
        let loaded ← loadPath fs path
        return loaded ++ (← load fs paths) := by
      simp only [load, List.mapM_cons, bind_assoc, pure_bind, List.flatten_cons]
    rw [hcons]
    constructor
    · intro h
      obtain ⟨loaded, hpath, h⟩ := Result.bind_eq_ok.1 h
      obtain ⟨others, hothers, h⟩ := Result.bind_eq_ok.1 h
      cases h
      obtain ⟨files, hfiles, hloaded⟩ := loadPath_eq_ok_iff.1 hpath
      obtain ⟨expanded, hexpanded, hmapM⟩ := ih.1 hothers
      refine ⟨files :: expanded, ?_, ?_⟩
      · rw [List.mapM_cons, hfiles, hexpanded]
        rfl
      · rw [List.flatten_cons, List.mapM_append, hloaded, hmapM]
        rfl
    · rintro ⟨_, hexpanded, hload⟩
      rw [List.mapM_cons] at hexpanded
      obtain ⟨files, hfiles, hexpanded⟩ := Result.bind_eq_ok.1 hexpanded
      obtain ⟨expanded, hrest, h⟩ := Result.bind_eq_ok.1 hexpanded
      cases h
      rw [List.flatten_cons, List.mapM_append] at hload
      obtain ⟨loaded, hloaded, hload⟩ := Result.bind_eq_ok.1 hload
      obtain ⟨others, hothers, h⟩ := Result.bind_eq_ok.1 hload
      cases h
      exact Result.bind_eq_ok.2 ⟨loaded, loadPath_eq_ok_iff.2 ⟨files, hfiles, hloaded⟩,
        Result.bind_eq_ok.2 ⟨others, ih.2 ⟨expanded, hrest, hothers⟩, rfl⟩⟩

/-- To load one path is to load the files that it stands for. -/
theorem load_of_filesOf (hfiles : filesOf fs path = .ok files)
    (hload : files.mapM (loadFile fs) = .ok packages) : load fs [path] = .ok packages := by
  refine load_eq_ok_iff.2 ⟨[files], ?_, ?_⟩
  · rw [List.mapM_cons, hfiles]
    rfl
  · rw [List.flatten_singleton]
    exact hload

/-- The path of a file with a descriptor stands for that file. -/
theorem loadPath_of_get {p : Package} (hmarked : markedDirectory? path = none)
    (hget : fs.get path = .ok (.file (Text.encode (p.render.toList ++ ['\n'])))) :
    loadPath fs path = .ok [p] := by
  have hfiles : filesOf fs path = .ok [path] := by
    rw [filesOf, foundOf, hmarked]
    exact Result.bind_eq_ok.2 ⟨_, Result.bind_eq_ok.2 ⟨_, Result.mapError_eq_ok.2 hget, rfl⟩, rfl⟩
  have hload : loadFile fs path = .ok p :=
    loadFile_of_read (Result.bind_eq_ok.2 ⟨_, hget, rfl⟩)
  refine loadPath_eq_ok_iff.2 ⟨[path], hfiles, ?_⟩
  rw [List.mapM_cons, hload]
  rfl

end

end Descriptors
end PackageListing
