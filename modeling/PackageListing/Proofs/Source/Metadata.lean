/-
# What is read of a file is consistent

A summary names a package, and its imports are distinct and not empty, because only such paths are
taken up (`Summary.isSound_of_ofSource?`). What is read of a file is one of three things
(`Metadata.Contributes`): a file that does not count, one that counts and is no Go file, and what
the summary of a Go file says. It is consistent each time (`Metadata.Contributes.isConsistent`).

The name of a file decides before the file is opened, so where the name does not match, and for the
object files of the system, neither the contents of the file nor its absence is seen
(`Metadata.read_of_not_isMatch`, `Metadata.read_of_object`). The main statement is
`Metadata.read_consistent`.
-/

import PackageListing.Proofs.Constraint.FileName
import PackageListing.Proofs.Files.Writing
import PackageListing.Proofs.Source.Parser
import PackageListing.Result
import PackageListing.Source.Metadata

namespace PackageListing

open Result (bind_eq_ok)

namespace Source

/-! ### Summaries -/

namespace Summary

/-- The package has a name, and the imports are distinct and not empty. -/
structure IsSound (s : Summary) : Prop where
  package : s.package ≠ ""
  imports : "" ∉ s.imports
  nodup : s.imports.Nodup

theorem foldl_addPath_sound {known : List (List Char)} (hne : ∀ path ∈ known, path ≠ [])
    (hnodup : known.Nodup) (paths : List (List Char)) :
    (∀ path ∈ paths.foldl addPath known, path ≠ []) ∧ (paths.foldl addPath known).Nodup := by
  induction paths generalizing known with
  | nil => exact ⟨hne, hnodup⟩
  | cons path paths ih => exact ih (addPath_ne_nil hne) (addPath_nodup hnodup)

theorem isSound_of_ofHeader? {h : Header} {s : Summary} (hs : ofHeader? h = some s) :
    s.IsSound := by
  obtain ⟨hne, hnodup⟩ := foldl_addPath_sound (List.forall_mem_nil _) List.nodup_nil h.paths
  rw [ofHeader?] at hs
  split at hs
  · cases hs
  · next hname =>
    obtain rfl := Option.some.inj hs
    refine ⟨fun hempty => hname ?_, fun hempty => ?_, ?_⟩
    · rw [String.ofList_eq_empty_iff.1 hempty]
      rfl
    · obtain ⟨path, hpath, htext⟩ := List.mem_map.1 hempty
      exact hne path hpath (String.ofList_eq_empty_iff.1 htext)
    · exact List.Pairwise.map _ (fun _ _ h heq => h (String.ofList_injective heq)) hnodup

/-- **What a source declares** is a package, and each import once. -/
theorem isSound_of_ofSource? {parse : Parser} {source : List Char} {s : Summary}
    (hs : ofSource? source parse = some s) : s.IsSound := by
  obtain ⟨h, -, hs⟩ := Option.bind_eq_some_iff.1 hs
  exact isSound_of_ofHeader? hs

end Summary

/-! ### Files -/

namespace Metadata

/-- The name of the file ends in `.go`. -/
def IsGo (file : String) : Prop :=
  ∃ stem, Path.fileName? file = some (stem ++ ".go")

/-- What is read of a file fits together. -/
structure IsConsistent (ctx : Constraint.Context) (preprocessed : Bool) (m : Metadata) : Prop where
  unmatched : m.matched = false → m.package = "" ∧ m.imports = []
  package : m.matched = true → IsGo m.file → m.package ≠ ""
  other : m.matched = true → ¬IsGo m.file → m.package = "" ∧ m.imports = []
  imports : "" ∉ m.imports
  nodup : m.imports.Nodup
  isCgo_iff : m.matched = true → (m.isCgo = true ↔ "C" ∈ m.imports)
  cgo : m.matched = true → preprocessed = false → m.isCgo = true → ctx.cgo = true

/-- What is read of a file: nothing, that it counts, or what its source declares. -/
inductive Contributes (ctx : Constraint.Context) (file : String) (preprocessed : Bool) :
    Metadata → Prop
  | nothing : Contributes ctx file preprocessed (unmatched file)
  | other (h : ¬IsGo file) : Contributes ctx file preprocessed (.other file)
  | source (h : IsGo file) {s : Summary} (hs : s.IsSound) :
    Contributes ctx file preprocessed (ofSummary file (preprocessed || ctx.cgo) s)

theorem hasExtension_iff {name ext : String} (hext : '.' ∉ ext.toList) :
    hasExtension name ext = true ↔ ∃ stem, name = stem ++ ("." ++ ext) := by
  rw [hasExtension, beq_iff_eq, Constraint.FileName.extension?_eq_some_iff]
  constructor
  · rintro ⟨-, front, hfront⟩
    refine ⟨String.ofList front, String.toList_inj.1 ?_⟩
    simp [hfront]
  · rintro ⟨stem, rfl⟩
    refine ⟨hext, stem.toList, ?_⟩
    simp

theorem isGo_iff {file name : String} (h : Path.fileName? file = some name) :
    IsGo file ↔ hasExtension name "go" = true := by
  rw [hasExtension_iff (by decide), IsGo, h]
  simp only [Option.some_inj]
  rfl

variable {ctx : Constraint.Context} {file name : String} {preprocessed : Bool} {parse : Parser}
  {m : Metadata}

theorem contributes_of_ofSource {ctx' : Constraint.Context}
    (hctx : ctx'.cgo = (preprocessed || ctx.cgo)) (hname : Path.fileName? file = some name)
    {source : List Char} (h : ofSource ctx' file name source parse = .ok m) :
    Contributes ctx file preprocessed m := by
  obtain ⟨holds, -, h⟩ := bind_eq_ok.1 h
  split at h
  · cases h
    exact .nothing
  · split at h
    · next hgo =>
      cases h
      exact .other (by rw [isGo_iff hname]; simpa using hgo)
    · next hgo =>
      split at h
      · cases h
      · next s hs =>
        cases h
        rw [hctx]
        exact .source ((isGo_iff hname).2 (by simpa using hgo)) (Summary.isSound_of_ofSource? hs)

/-- **There are three ways to read a file.** -/
theorem contributes_of_read {fs : FileSystem} (h : read fs ctx file preprocessed parse = .ok m) :
    Contributes ctx file preprocessed m := by
  rw [read] at h
  split at h
  · cases h
  · next name hname =>
    split at h
    · cases h
      exact .nothing
    · split at h
      · next hobject =>
        cases h
        refine .other fun hgo => ?_
        rw [isGo_iff hname, hasExtension, beq_iff_eq] at hgo
        rw [hasExtension, hgo] at hobject
        cases hobject
      · obtain ⟨bytes, -, h⟩ := bind_eq_ok.1 h
        refine contributes_of_ofSource ?_ hname h
        cases preprocessed
        · rfl
        · rfl

theorem file_ofSummary (file : String) (cgoAllowed : Bool) (s : Summary) :
    (ofSummary file cgoAllowed s).file = file := by
  rw [ofSummary]
  split <;> rfl

theorem Contributes.file_eq (h : Contributes ctx file preprocessed m) : m.file = file := by
  cases h with
  | nothing => rfl
  | other _ => rfl
  | source _ _ => exact file_ofSummary file _ _

/-- What is read of a file names the file. -/
theorem file_of_read {fs : FileSystem} (h : read fs ctx file preprocessed parse = .ok m) :
    m.file = file :=
  (contributes_of_read h).file_eq

theorem Contributes.isConsistent (h : Contributes ctx file preprocessed m) :
    IsConsistent ctx preprocessed m := by
  cases h with
  | nothing =>
    exact ⟨fun _ => ⟨rfl, rfl⟩, nofun, nofun, List.not_mem_nil, List.nodup_nil, nofun, nofun⟩
  | other hgo =>
    exact ⟨nofun, fun _ h => absurd h hgo, fun _ _ => ⟨rfl, rfl⟩, List.not_mem_nil, List.nodup_nil,
      fun _ => ⟨nofun, nofun⟩, fun _ _ => nofun⟩
  | @source hgo s hs =>
    rw [ofSummary]
    split
    · exact ⟨fun _ => ⟨rfl, rfl⟩, nofun, nofun, List.not_mem_nil, List.nodup_nil, nofun, nofun⟩
    · next hallowed =>
      have hcgo : preprocessed = false → s.imports.contains "C" = true → ctx.cgo = true := by
        intro hwritten himports
        rw [hwritten, himports] at hallowed
        simpa using hallowed
      exact ⟨nofun, fun _ _ => hs.package, fun _ h => absurd hgo h, hs.imports, hs.nodup,
        fun _ => List.contains_iff_mem, fun _ => hcgo⟩

theorem read_of_not_isMatch (hname : Path.fileName? file = some name)
    (h : Constraint.FileName.isMatch ctx name = false) (fs : FileSystem) :
    read fs ctx file preprocessed parse = .ok (unmatched file) := by
  rw [read, hname]
  simp only [h]
  rfl

theorem read_of_object (hname : Path.fileName? file = some name)
    (h : Constraint.FileName.isMatch ctx name = true) (hobject : hasExtension name "syso" = true)
    (fs : FileSystem) : read fs ctx file preprocessed parse = .ok (other file) := by
  rw [read, hname]
  simp only [h, hobject]
  rfl

/-- **What is read of a file is consistent,** and what is said by its name alone is said whatever
the file holds and whether or not it is there. -/
theorem read_consistent (ctx : Constraint.Context) (file : String) (preprocessed : Bool)
    (parse : Parser) :
    (∀ fs m, read fs ctx file preprocessed parse = .ok m →
        m.file = file ∧ m.IsConsistent ctx preprocessed) ∧
      ∀ name, Path.fileName? file = some name →
        (Constraint.FileName.isMatch ctx name = false →
            ∀ fs, read fs ctx file preprocessed parse = .ok (unmatched file)) ∧
          (Constraint.FileName.isMatch ctx name = true → (∃ stem, name = stem ++ ".syso") →
            ∀ fs, read fs ctx file preprocessed parse = .ok (other file)) := by
  refine ⟨fun fs m h => ⟨file_of_read h, (contributes_of_read h).isConsistent⟩,
    fun name hname => ⟨read_of_not_isMatch hname, fun h hobject => ?_⟩⟩
  exact read_of_object hname h ((hasExtension_iff (by decide)).2 hobject)

/-- A file that imports C code, and nothing else. -/
def cgoFiles : FileSystem where
  tree := .directory
    [("a.go", .file (Text.encode "package p\nimport \"C\"\nimport \"fmt\"\n".toList))]
  workingPlace := []

/-- A build that may use C code. -/
def cgoBuild : Constraint.Context := Constraint.Context.host.withCgo

/-- What is read of the file. -/
def cgoMetadata : Metadata :=
  { file := "a.go", matched := true, package := "p", imports := ["C", "fmt"], isCgo := true }

theorem read_cgoFiles : read cgoFiles cgoBuild "a.go" false headerParser = .ok cgoMetadata := by
  have hfile : cgoFiles.read "a.go" =
      .ok (Text.encode "package p\nimport \"C\"\nimport \"fmt\"\n".toList) :=
    cgoFiles.read_of_lookup rfl rfl (by decide) rfl (by decide) (by decide) (by decide) rfl
  rw [read, hfile]
  decide +kernel

theorem read_consistent_cgoFiles :
    (read cgoFiles cgoBuild "a.go" false headerParser = .ok cgoMetadata ∧
        cgoMetadata.file = "a.go" ∧ cgoMetadata.IsConsistent cgoBuild false) ∧
      (Path.fileName? "x/b_windows.go" = some "b_windows.go" ∧
        Constraint.FileName.isMatch cgoBuild "b_windows.go" = false ∧
        read cgoFiles cgoBuild "x/b_windows.go" false headerParser =
          .ok (unmatched "x/b_windows.go")) ∧
      Path.fileName? "c.syso" = some "c.syso" ∧
        Constraint.FileName.isMatch cgoBuild "c.syso" = true ∧
        (∃ stem, "c.syso" = stem ++ ".syso") ∧
        read cgoFiles cgoBuild "c.syso" true headerParser = .ok (other "c.syso") := by
  have hgo :=
    (read_consistent cgoBuild "a.go" false headerParser).1 cgoFiles cgoMetadata read_cgoFiles
  have hforeign : Path.fileName? "x/b_windows.go" = some "b_windows.go" := by decide +kernel
  have hwindows : Constraint.FileName.isMatch cgoBuild "b_windows.go" = false := by decide +kernel
  have hname : Path.fileName? "c.syso" = some "c.syso" := by decide +kernel
  have hmatch : Constraint.FileName.isMatch cgoBuild "c.syso" = true := by decide +kernel
  have hobject : ∃ stem, "c.syso" = stem ++ ".syso" := ⟨"c", by decide⟩
  refine ⟨⟨read_cgoFiles, hgo⟩, ⟨hforeign, hwindows, ?_⟩, hname, hmatch, hobject, ?_⟩
  · exact ((read_consistent cgoBuild "x/b_windows.go" false headerParser).2 _ hforeign).1 hwindows
      cgoFiles
  · exact ((read_consistent cgoBuild "c.syso" true headerParser).2 _ hname).2 hmatch hobject
      cgoFiles

end Metadata
end Source
end PackageListing
