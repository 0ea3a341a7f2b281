/-
# The directory of the standard library

The files for packages are stored one after the other in the output directory (`holds_writeAll`),
and then comes the marker (`holds_writeMarker`). A walk finds the packages again, in the order of
the places of their files (`exists_sorted`). So the path of the marker stands for them, however the
path of the directory is spelt (`exists_load_marker`), except for `-`, which a walk takes for no
directory.
-/

import Mathlib.Data.List.Perm.Basic
import PackageListing.Proofs.Action
import PackageListing.Proofs.Loading
import PackageListing.Proofs.StandardLibrary.Places

namespace PackageListing

namespace StandardLibrary

open Descriptors (marker cacheName)
open FileSystem (Holds pieces)
open FileTree (Place pathBelow)

/-- The file for a package. -/
def entryOf (p : Package) : Place × List UInt8 :=
  (filePlace p.path, Text.encode (p.render.toList ++ ['\n']))

/-- The file of the marker. -/
def markerEntry : Place × List UInt8 :=
  (pieces marker, [])

theorem pieces_marker : pieces marker = [marker] := by
  have hname : Path.IsName marker := by decide
  rw [pieces, ← Path.cuts, Path.cuts_of_isName hname, List.map_singleton, String.ofList_toList]

theorem isName_of_mem_marker : ∀ name ∈ pieces marker, Path.IsName name := by
  rw [pieces_marker]
  exact List.forall_mem_singleton.2 (by decide)

theorem cacheName_not_mem_marker : cacheName ∉ pieces marker := by
  rw [pieces_marker]
  decide

section

variable {fs₀ fs fs' : FileSystem} {output path : String} {base : Place} {left : Nat}
  {written : List (Place × List UInt8)} {packages : List Package} {p : Package}

theorem map_fst_entryOf (packages : List Package) :
    (packages.map entryOf).map Prod.fst = (packages.map (·.path)).map filePlace := by
  rw [List.map_map, List.map_map]
  rfl

/-- **The file for a package** comes to those that are stored. -/
theorem holds_write (h : Holds cacheName fs₀ path base written fs)
    (hreaches : fs₀.Reaches path base left) (hpath : path ≠ "") (hplain : IsPackagePath p.path)
    (hnew : filePlace p.path ∉ written.map Prod.fst)
    (hwrite : Descriptors.write fs p (fileFor path p) = .ok fs') :
    Holds cacheName fs₀ path base (written ++ [entryOf p]) fs' := by
  obtain ⟨fs₁, hcreate, hwrite⟩ := Descriptors.exists_write_eq_ok hwrite
  have hholds : Holds cacheName fs₀ path base written fs₁ := by
    rcases hcreate with rfl | ⟨parent, hparent, hcreate⟩
    · exact h
    · exact h.createDirectories hreaches hpath hplain.isName hplain.cacheName_not_mem
        (FileSystem.write_eq_ok hwrite).1 (Path.components_isPrefix_of_parent? hparent) hcreate
  exact hholds.write hreaches hpath hplain.isName hplain.cacheName_not_mem hnew hwrite

/-- **The marker** comes to the files that are stored. -/
theorem holds_writeMarker (h : Holds cacheName fs₀ path base written fs)
    (hreaches : fs₀.Reaches path base left) (hpath : path ≠ "")
    (hnew : pieces marker ∉ written.map Prod.fst) (hwrite : writeMarker path fs = .ok fs') :
    Holds cacheName fs₀ path base (written ++ [markerEntry]) fs' := by
  obtain ⟨fs₁, hcreate, hwrite⟩ := Result.bind_eq_ok.1 hwrite
  have hwritten := Result.mapError_eq_ok.1 hwrite
  have hcomponents : Path.components path <+: Path.components (Path.join path marker) :=
    ⟨_, (Path.components_join hpath (by decide)).symm⟩
  have hholds := h.createDirectories hreaches hpath isName_of_mem_marker cacheName_not_mem_marker
    (FileSystem.write_eq_ok hwritten).1 hcomponents (Result.mapError_eq_ok.1 hcreate)
  exact hholds.write hreaches hpath isName_of_mem_marker cacheName_not_mem_marker hnew hwritten

/-- **The files for packages** are stored one after the other, up to the first that fails. -/
theorem holds_writeAll {m : Machine} (h : Holds cacheName fs₀ path base [] m.files)
    (hreaches : fs₀.Reaches path base left) (hpath : path ≠ "")
    (hpaths : ArePackagePaths (packages.map (·.path))) :
    match (packages.forM fun p => Action.change fun fs =>
      Descriptors.write fs p (fileFor path p)) m with
    | (.ok _, m') => Holds cacheName fs₀ path base (packages.map entryOf) m'.files
    | (.error _, m') => ∃ done, done <+: packages ∧
        Holds cacheName fs₀ path base (done.map entryOf) m'.files := by
  refine Action.forM_change_induction (f := fun p fs => Descriptors.write fs p (fileFor path p))
    (P := fun done => Holds cacheName fs₀ path base (done.map entryOf)) h ?_
  rintro done p rest fs fs' rfl hdone hwrite
  have hnew : filePlace p.path ∉ (done.map entryOf).map Prod.fst := by
    rw [map_fst_entryOf, List.mem_map_of_injective filePlace_injective]
    have hnodup := hpaths.nodup
    rw [List.map_append, List.map_cons, List.nodup_append] at hnodup
    exact fun hmem => hnodup.2.2 _ hmem _ List.mem_cons_self rfl
  rw [List.map_append]
  have hmem : p.path ∈ (done ++ p :: rest).map (·.path) :=
    List.mem_map_of_mem (List.mem_append_right _ List.mem_cons_self)
  exact holds_write hdone hreaches hpath (hpaths.plain _ hmem) hnew hwrite

/-- The marker is no file for a package. -/
theorem marker_not_mem (hplain : ∀ path ∈ packages.map (·.path), IsPackagePath path) :
    pieces marker ∉ (packages.map entryOf).map Prod.fst := by
  rw [map_fst_entryOf, pieces_marker]
  intro hmem
  obtain ⟨path, hpath, heq⟩ := List.mem_map.1 hmem
  exact (hplain path hpath).filePlace_ne_marker heq

/-- What is in other order is so by members that are in other order. -/
theorem exists_map_eq_of_perm {α β : Type} {f : α → β} {l : List β} {l' : List α}
    (h : l.Perm (l'.map f)) : ∃ sorted : List α, l = sorted.map f ∧ sorted.Perm l' :=
  (congrFun (congrFun (List.eq_map_comp_perm f) l) l').symm.mp h

/-- **The descriptors that a walk comes to** are those of the packages, from less to greater
places. -/
theorem exists_sorted {dir : String} {entries : List (String × FileTree)}
    (h : Holds cacheName fs₀ path base (packages.map entryOf ++ [markerEntry]) fs)
    (hdir : dir ≠ "") (hpaths : ArePackagePaths (packages.map (·.path)))
    (hat : fs.tree.at? base = some (.directory entries)) :
    ∃ sorted : List Package, sorted.Perm packages ∧
      sorted.Pairwise (fun p q => filePlace p.path < filePlace q.path) ∧
      ((FileTree.directory entries).walk cacheName dir).filter Descriptors.isDescriptor =
        sorted.map fun p => pathBelow dir (filePlace p.path) := by
  have hplaces : (packages.map entryOf ++ [markerEntry]).map Prod.fst =
      packages.map (fun p => filePlace p.path) ++ [pieces marker] := by
    rw [List.map_append, map_fst_entryOf, List.map_map]
    rfl
  have hdistinct : ((packages.map entryOf ++ [markerEntry]).map Prod.fst).Nodup := by
    rw [List.map_append, List.nodup_append]
    refine ⟨?_, List.nodup_singleton _, ?_⟩
    · rw [map_fst_entryOf]
      exact hpaths.nodup.map filePlace_injective
    · rintro a ha b hb rfl
      obtain rfl := List.mem_singleton.1 hb
      exact marker_not_mem hpaths.plain ha
  obtain ⟨hperm, hsorted⟩ := h.stores.perm_filePlaces hdistinct hat
  have hdescriptors : ∀ place ∈ packages.map fun p => filePlace p.path,
      (Descriptors.isDescriptor ∘ pathBelow dir) place = true := by
    intro place hplace
    obtain ⟨p, hp, rfl⟩ := List.mem_map.1 hplace
    exact (hpaths.plain _ (List.mem_map_of_mem hp)).isDescriptor_pathBelow hdir
  have hmarker : ¬(Descriptors.isDescriptor ∘ pathBelow dir) (pieces marker) = true := by
    rw [pieces_marker, Function.comp_apply, isDescriptor_marker hdir]
    exact Bool.false_ne_true
  have hfiltered := hperm.filter (Descriptors.isDescriptor ∘ pathBelow dir)
  rw [hplaces, List.filter_append, List.filter_eq_self.2 hdescriptors,
    List.filter_cons_of_neg hmarker, List.filter_nil, List.append_nil] at hfiltered
  obtain ⟨sorted, hmap, hpackages⟩ := exists_map_eq_of_perm hfiltered
  refine ⟨sorted, hpackages, ?_, ?_⟩
  · have hpairwise := hsorted.filter (Descriptors.isDescriptor ∘ pathBelow dir)
    rw [hmap] at hpairwise
    exact List.pairwise_map.1 hpairwise
  · rw [FileTree.walk_eq, List.filter_map, hmap, List.map_map]
    rfl

/-- **The path of the marker** stands for the packages whose files are stored, unless it names the
directory `-`. -/
theorem exists_load_marker
    (h : Holds cacheName fs₀ path base (packages.map entryOf ++ [markerEntry]) fs)
    (hpath : path ≠ "") (houtput : output ≠ "") (hreaches : fs.Reaches output base left)
    (hwithin : ∀ {dir}, Path.IsWithin dir output → Path.IsWithin dir path)
    (hpaths : ArePackagePaths (packages.map (·.path))) :
    ∃ sorted : List Package, sorted.Perm packages ∧
      sorted.Pairwise (fun p q => filePlace p.path < filePlace q.path) ∧
      Descriptors.load fs [Path.join output marker] =
        .ok (if Path.components output = [.member "-"] then [] else sorted) := by
  have hmarker : Path.IsName marker := by decide
  obtain ⟨dir, hparent, hdir, hcomponents, hshort⟩ := Path.exists_parent?_join houtput hmarker
  have hmarked : Descriptors.markedDirectory? (Path.join output marker) = some dir := by
    rw [Descriptors.markedDirectory?, if_pos (Path.fileName?_join houtput hmarker), hparent]
  obtain ⟨entries, hat⟩ := h.stores.directory
  have hfound := hreaches.of_components_eq hat hcomponents
  have hcheck : FileSystem.checkPath dir = .ok () := by
    have hmem := List.mem_append_right (packages.map entryOf) (List.mem_singleton_self markerEntry)
    have hwritten := (h.writable markerEntry hmem).1
    rw [markerEntry, FileSystem.intercalate_pieces] at hwritten
    exact FileSystem.checkPath_of_isWithin hwritten hpath hdir rfl (hwithin hshort)
  obtain ⟨sorted, hperm, hsorted, hwalk⟩ := exists_sorted h hdir hpaths hat
  have hlisted : Descriptors.IsListed fs (.directory entries) dir := fun v hv hdirectory =>
    h.exists_get_of_mem_visits hpath hdir hfound (hwithin hshort) hcheck hat hv hdirectory
  have hfiles := Descriptors.filesOf_of_isListed (hmarked ▸ Option.getD_some)
    (hfound.get_eq_ok hcheck hat) fun _ => hlisted
  have hdirectory : (FileTree.directory entries).isDirectory = true := rfl
  rw [if_pos hdirectory, Descriptors.filesBelow, hwalk, hcomponents] at hfiles
  have hload : ∀ p ∈ sorted,
      Descriptors.loadFile fs (pathBelow dir (filePlace p.path)) = .ok p := by
    intro p hp
    have hmem : entryOf p ∈ packages.map entryOf ++ [markerEntry] :=
      List.mem_append_left _ (List.mem_map_of_mem (hperm.mem_iff.1 hp))
    exact Descriptors.loadFile_of_read (h.read_pathBelow hpath hdir hfound (hwithin hshort) hmem
      (FileSystem.pieces_ne_nil _))
  refine ⟨sorted, hperm, hsorted, Descriptors.load_of_filesOf hfiles ?_⟩
  split
  · rfl
  · exact Result.mapM_map_eq_ok hload

end

end StandardLibrary
end PackageListing
