/-
# Workspaces, as they are marked and reported

The workspace around a directory lies at the nearest directory with a marker, from the directory
upward (`rootAround?_eq_some_iff`), and there is none just if no directory upward has one
(`rootAround?_eq_none_iff`). From the path of a place, these are the directories on the way to the
place (`isOutside_path_iff`).

A report describes a workspace when it names both directories of the build (`ofReport_eq_ok_iff`);
the workspace itself need not be in it. Otherwise the first directory that is missing is named
(`cause_of_ofReport`), and a report is never taken for the absence of a workspace.
-/

import PackageListing.Workspace
import PackageListing.Proofs.Action
import PackageListing.Proofs.Path.Ancestors

namespace PackageListing
namespace Workspace

open PackageListing.Action

/-! ### Markers -/

/-- A directory holds one of the files that mark a workspace. -/
def HasMarker (fs : FileSystem) (directory : String) : Prop :=
  ∃ marker ∈ ["WORKSPACE", "WORKSPACE.bazel", "MODULE.bazel"],
    fs.isFile (Path.join directory marker) = true

/-- No directory has a marker, from this one upward. -/
def IsOutside (fs : FileSystem) (directory : String) : Prop :=
  ∀ d ∈ Path.ancestors directory, ¬HasMarker fs d

/-- The nearest directory with a marker, from a directory upward. -/
def IsRootAround (fs : FileSystem) (directory root : String) : Prop :=
  HasMarker fs root ∧ ∃ nearer farther, Path.ancestors directory = nearer ++ root :: farther ∧
    ∀ d ∈ nearer, ¬HasMarker fs d

section

variable {fs : FileSystem} {directory root : String}

theorem isMarked_iff : isMarked fs directory = true ↔ HasMarker fs directory := by
  rw [isMarked, List.any_eq_true]
  exact Iff.rfl

/-- **There is no workspace** just if no directory upward has a marker. -/
theorem rootAround?_eq_none_iff : rootAround? fs directory = none ↔ IsOutside fs directory := by
  rw [rootAround?, List.find?_eq_none]
  simp only [isMarked_iff]
  exact Iff.rfl

/-- **The root of a workspace** is the nearest directory with a marker. -/
theorem rootAround?_eq_some_iff :
    rootAround? fs directory = some root ↔ IsRootAround fs directory root := by
  rw [rootAround?, List.find?_eq_some_iff_append, isMarked_iff]
  simp only [Bool.not_eq_eq_eq_not, Bool.not_true, ← Bool.not_eq_true, isMarked_iff]
  exact Iff.rfl

/-- From a directory either no workspace is found or one. -/
theorem isOutside_or_exists (fs : FileSystem) (directory : String) :
    IsOutside fs directory ∨ ∃ root, IsRootAround fs directory root := by
  simp only [← rootAround?_eq_none_iff, ← rootAround?_eq_some_iff]
  exact Option.eq_none_or_eq_some _

/-- From a place, the directories on the way to it count. -/
theorem isOutside_path_iff {place : FileTree.Place} (hnames : ∀ name ∈ place, Path.IsName name) :
    IsOutside fs place.path ↔
      ∀ above : FileTree.Place, above <+: place → ¬HasMarker fs above.path := by
  simp only [IsOutside, Path.ancestors_path hnames, List.forall_mem_map, List.mem_reverse,
    List.mem_inits]

end

/-! ### Reports -/

variable {config : Config} {root : String}

/-- **A report describes a workspace** when it names the directories of the build. -/
theorem ofReport_eq_ok_iff {report : Names.Map} {w : Workspace} :
    ofReport config root report = .ok w ↔
      reported? report "bazel-bin" = some w.binaries ∧
        reported? report "execution_root" = some w.execution ∧
          (reported? report "workspace").getD root = w.root := by
  simp only [ofReport]
  cases reported? report "bazel-bin" with
  | none => exact ⟨fun h => (nomatch h), fun h => (nomatch h.1)⟩
  | some binaries =>
    cases reported? report "execution_root" with
    | none => exact ⟨fun h => (nomatch h), fun h => (nomatch h.2.1)⟩
    | some execution =>
      constructor
      · intro h
        cases h
        exact ⟨rfl, rfl, rfl⟩
      · rcases w with ⟨root', binaries', execution'⟩
        rintro ⟨hbinaries, hexecution, hroot⟩
        cases hbinaries
        cases hexecution
        cases hroot
        rfl

theorem cause_of_ofReport {report : Names.Map} {e : Failure}
    (h : ofReport config root report = .error e) :
    ∃ key, e.cause = .unreported config.buildTool key ∧ reported? report key = none := by
  simp only [ofReport] at h
  cases hbinaries : reported? report "bazel-bin" with
  | none =>
    rw [hbinaries] at h
    cases h
    exact ⟨_, rfl, hbinaries⟩
  | some binaries =>
    rw [hbinaries] at h
    cases hexecution : reported? report "execution_root" with
    | none =>
      rw [hexecution] at h
      cases h
      exact ⟨_, rfl, hexecution⟩
    | some execution =>
      rw [hexecution] at h
      cases h

theorem discover_of_none {directory : String} {m : Machine}
    (h : rootAround? m.files directory = none) :
    discover config directory m = (.error (.of .noWorkspace), m) := by
  rw [discover, bind_apply, look_apply, h]
  rfl

theorem discover_of_some {directory : String} {m : Machine}
    (h : rootAround? m.files directory = some root) :
    discover config directory m = ask config root m := by
  rw [discover, bind_apply, look_apply, h]

end Workspace
end PackageListing
