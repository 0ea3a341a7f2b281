/-
# The files of the packages of the standard library

The file for a package lies below the output directory at the place that the path of the package
spells, with an ending (`filePlace`). Packages with different paths have different files
(`filePlace_injective`). Where a path is made up of plain names and does not lead through the cache
(`IsPackagePath`), the file lies outside of the cache (`IsPackagePath.cacheName_not_mem`), and a
walk takes it for a descriptor (`IsPackagePath.isDescriptor_pathBelow`), which the marker is not
(`isDescriptor_marker`).
-/

import PackageListing.Proofs.Descriptors
import PackageListing.Proofs.Files.Below
import PackageListing.StandardLibrary

namespace PackageListing
namespace StandardLibrary

open FileSystem (pieces)
open FileTree (Place pathBelow)

/-- The ending of the files for packages. -/
def ending : String := ".json"

/-- The place of the file for a package of a path, below the output directory. -/
def filePlace (path : String) : Place :=
  pieces (path ++ ending)

/-- A path of plain names, where the name of the cache does not come before the last one. -/
structure IsPackagePath (path : String) : Prop where
  names : ∀ name ∈ pieces path, Path.IsName name
  cache : Descriptors.cacheName ∉ (pieces path).dropLast

/-- Paths that differ, each of which names a file outside of the cache. -/
structure ArePackagePaths (paths : List String) : Prop where
  nodup : paths.Nodup
  plain : ∀ path ∈ paths, IsPackagePath path

variable {path dir : String}

theorem filePlace_injective : Function.Injective filePlace := by
  intro path path' h
  have htext : path ++ ending = path' ++ ending := by
    rw [← FileSystem.intercalate_pieces (path ++ ending),
      ← FileSystem.intercalate_pieces (path' ++ ending)]
    exact congrArg _ h
  rwa [String.append_left_inj] at htext

/-- **The place of a file** has the ending at its last name. -/
theorem exists_filePlace_eq (path : String) :
    ∃ front last, pieces path = front ++ [last] ∧ filePlace path = front ++ [last ++ ending] := by
  rcases List.eq_nil_or_concat (Path.cuts path) with hnil | ⟨front, last, hconcat⟩
  · exact absurd hnil (Path.cuts_ne_nil path)
  · rw [List.concat_eq_append] at hconcat
    have hplace := Path.splitOn_append_of_not_mem (t := ending.toList) hconcat (by decide)
    refine ⟨front.map String.ofList, String.ofList last, ?_, ?_⟩
    · rw [pieces, ← Path.cuts, hconcat, List.map_append, List.map_singleton]
    · rw [filePlace, pieces, String.toList_append, hplace, List.map_append, List.map_singleton,
        String.ofList_append, String.ofList_toList]

theorem isName_append_ending {name : String} (h : Path.IsName name) :
    Path.IsName (name ++ ending) := by
  have hlength : ∀ s : String, s.length < 5 → name ++ ending ≠ s := by
    rintro s hs rfl
    rw [String.length_append] at hs
    exact absurd hs (Nat.not_lt.2 (Nat.le_add_left 5 name.length))
  refine ⟨hlength _ (by decide), hlength _ (by decide), hlength _ (by decide), ?_⟩
  rw [String.toList_append, List.mem_append, not_or]
  exact ⟨h.2.2.2, by decide⟩

theorem append_ending_ne {name s : String} (h : s.toList.getLast? ≠ some 'n') :
    name ++ ending ≠ s := by
  rintro rfl
  refine h ?_
  rw [String.toList_append, List.getLast?_append]
  rfl

theorem isDescriptor_marker (hdir : dir ≠ "") :
    Descriptors.isDescriptor (pathBelow dir [Descriptors.marker]) = false := by
  have hname : Path.fileName? (pathBelow dir [Descriptors.marker]) = some Descriptors.marker :=
    FileTree.fileName?_pathBelow hdir (by decide) []
  rw [Descriptors.isDescriptor, hname, bne_self_eq_false]
  rfl

namespace IsPackagePath

theorem isName (h : IsPackagePath path) : ∀ name ∈ filePlace path, Path.IsName name := by
  obtain ⟨front, last, hpieces, hplace⟩ := exists_filePlace_eq path
  have hnames := h.names
  rw [hpieces, List.forall_mem_append, List.forall_mem_singleton] at hnames
  rw [hplace, List.forall_mem_append, List.forall_mem_singleton]
  exact ⟨hnames.1, isName_append_ending hnames.2⟩

theorem cacheName_not_mem (h : IsPackagePath path) : Descriptors.cacheName ∉ filePlace path := by
  obtain ⟨front, last, hpieces, hplace⟩ := exists_filePlace_eq path
  have hcache := h.cache
  rw [hpieces, List.dropLast_concat] at hcache
  rw [hplace, List.mem_append, List.mem_singleton, not_or]
  exact ⟨hcache, Ne.symm (append_ending_ne (by decide))⟩

/-- **A walk takes the file for a descriptor.** -/
theorem isDescriptor_pathBelow (h : IsPackagePath path) (hdir : dir ≠ "") :
    Descriptors.isDescriptor (pathBelow dir (filePlace path)) = true := by
  obtain ⟨front, last, hpieces, hplace⟩ := exists_filePlace_eq path
  have hlast : Path.IsName last :=
    h.names last (hpieces ▸ List.mem_append_right _ (List.mem_singleton_self last))
  rw [hplace]
  have hname := FileTree.fileName?_pathBelow hdir (isName_append_ending hlast) front
  exact (Descriptors.isDescriptor_iff hname).2 ⟨last, hlast.1, rfl⟩

theorem filePlace_ne_marker (h : IsPackagePath path) : filePlace path ≠ [Descriptors.marker] := by
  intro heq
  have hdescriptor : Descriptors.isDescriptor (pathBelow "." (filePlace path)) = true :=
    h.isDescriptor_pathBelow (by decide)
  rw [heq, isDescriptor_marker (by decide)] at hdescriptor
  cases hdescriptor

end IsPackagePath
end StandardLibrary
end PackageListing
