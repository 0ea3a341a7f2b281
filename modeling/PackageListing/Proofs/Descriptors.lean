/-
# Descriptors in files

A descriptor that is written to a file is loaded from it as it was (`loadFile_of_write`). Below a
directory the files of descriptors are told by the ending of their names (`isDescriptor_iff`).
-/

import PackageListing.Descriptors
import PackageListing.Proofs.Exchange
import PackageListing.Proofs.Files.Writing
import PackageListing.Proofs.Path

namespace PackageListing
namespace Descriptors

/-- Writing a descriptor ends with writing its file, after directories are made for it. -/
theorem exists_write_eq_ok {fs fs' : FileSystem} {p : Package} {path : String}
    (h : write fs p path = .ok fs') :
    ∃ fs₁ : FileSystem, (fs₁ = fs ∨ ∃ parent, Path.parent? path = some parent ∧
        fs.createDirectories parent = .ok fs₁) ∧
      fs₁.write path (Text.encode (p.render.toList ++ ['\n'])) = .ok fs' := by
  rw [write] at h
  split at h
  · next parent hparent =>
    obtain ⟨fs₁, hcreate, hwrite⟩ := Result.bind_eq_ok.1 h
    exact ⟨fs₁, .inr ⟨parent, hparent, Result.mapError_eq_ok.1 hcreate⟩,
      Result.mapError_eq_ok.1 hwrite⟩
  · exact ⟨fs, .inl rfl, Result.mapError_eq_ok.1 h⟩

/-- A file of a descriptor holds its text and a line feed. -/
theorem read_of_write {fs fs' : FileSystem} {p : Package} {path : String}
    (h : write fs p path = .ok fs') :
    fs'.read path = .ok (Text.encode (p.render.toList ++ ['\n'])) := by
  obtain ⟨_, -, hwrite⟩ := exists_write_eq_ok h
  exact FileSystem.read_of_write hwrite

theorem ofBytes?_encode (p : Package) :
    Json.ofBytes? (Text.encode (p.render.toList ++ ['\n'])) = some p.encode := by
  refine p.plain_encode.ofBytes?_encode fun c hc => ?_
  obtain rfl := List.mem_singleton.1 hc
  rfl

theorem loadFile_of_read {fs : FileSystem} {p : Package} {path : String}
    (h : fs.read path = .ok (Text.encode (p.render.toList ++ ['\n']))) :
    loadFile fs path = .ok p := by
  have hread : Failure.duringIo (.read path) (fs.read path) = .ok _ := Result.mapError_eq_ok.2 h
  refine Result.bind_eq_ok.2 ⟨_, hread, ?_⟩
  rw [ofBytes?_encode, Option.bind_some, Package.decode?_encode]
  rfl

/-- **A descriptor is loaded from the file that it was written to.** -/
theorem loadFile_of_write {fs fs' : FileSystem} {p : Package} {path : String}
    (h : write fs p path = .ok fs') : loadFile fs' path = .ok p :=
  loadFile_of_read (read_of_write h)

/-- **A walk takes a file for a descriptor** by the ending of its name. -/
theorem isDescriptor_iff {path name : String} (h : Path.fileName? path = some name) :
    isDescriptor path = true ↔ ∃ stem, stem ≠ "" ∧ name = stem ++ ".json" := by
  have hending : Path.extension? path = some "json" ↔
      ∃ stem, stem ≠ "" ∧ name = stem ++ ".json" := by
    rw [Path.extension?_eq_some_iff h, and_iff_right (by decide)]
    simp only [String.append_assoc]
    exact Iff.rfl
  rw [isDescriptor, h, Bool.and_eq_true, beq_iff_eq, hending, bne_iff_ne]
  refine and_iff_right_of_imp ?_
  rintro ⟨stem, -, rfl⟩ hmarker
  have hlast : (stem ++ ".json").toList.getLast? = some 'n' := by
    rw [String.toList_append, List.getLast?_append]
    rfl
  rw [Option.some.inj hmarker] at hlast
  exact absurd hlast (by decide)

end Descriptors

/-- **What is written is read.** The texts of packages, requests and responses give these back, and
so does the file of a package. What is left out is what is empty, and is read as that. -/
theorem written_is_read :
    (∀ p : Package, (Json.ofString? p.render).bind Package.decode? = some p) ∧
      (∀ r : Request, (Json.ofString? r.render).bind Request.decode? = some r) ∧
      (∀ r : Response, (Json.ofString? r.render).bind Response.decode? = some r) ∧
      (∀ (fs fs' : FileSystem) (p : Package) (path : String),
        Descriptors.write fs p path = .ok fs' →
          fs'.read path = .ok (Text.encode (p.render.toList ++ ['\n'])) ∧
            Descriptors.loadFile fs' path = .ok p) ∧
      Json.Omissions Package.encode Package.decode? Package.fieldNames Package.omissible ∧
      Json.Omissions Request.encode Request.decode? Request.fieldNames Request.omissible ∧
      Json.Omissions Response.encode Response.decode? Response.fieldNames Response.omissible := by
  refine ⟨fun p => ?_, fun r => ?_, fun r => ?_, fun fs fs' p path h => ?_, Package.omissions,
    Request.omissions, Response.omissions⟩
  · rw [Package.render, p.plain_encode.ofString?_render, Option.bind_some, Package.decode?_encode]
  · rw [Request.render, r.plain_encode.ofString?_render, Option.bind_some, Request.decode?_encode]
  · rw [Response.render, r.plain_encode.ofString?_render, Option.bind_some,
      Response.decode?_encode]
  · exact ⟨Descriptors.read_of_write h, Descriptors.loadFile_of_write h⟩

/-- A package with signs that are escaped, a kind below nought and an empty path of export data. -/
def samplePackage : Package where
  id := "//a:\"b\""
  name := "b\n"
  path := ""
  problems := [⟨"", "\u0001 \\ é", -1⟩]
  goFiles := ["a.go", ""]
  compiledGoFiles := []
  otherFiles := []
  exportFile := some ""
  imports := Names.Map.ofList [("fmt", "@std//fmt")]

/-- A file system with the root only. -/
def sampleFiles : FileSystem := ⟨FileTree.empty, []⟩

theorem sample_is_read :
    ∃ fs, Descriptors.write sampleFiles samplePackage "b.json" = .ok fs ∧
      Descriptors.loadFile fs "b.json" = .ok samplePackage := by
  have hfile := sampleFiles.write_of_lookup_eq_none rfl "b.json" rfl rfl rfl (by decide)
    (by decide) (by decide) rfl (Text.encode (samplePackage.render.toList ++ ['\n']))
  have hwrite : Descriptors.write sampleFiles samplePackage "b.json" = .ok _ :=
    Result.bind_eq_ok.2 ⟨sampleFiles, rfl, Result.mapError_eq_ok.2 hfile⟩
  exact ⟨_, hwrite, (written_is_read.2.2.2.1 _ _ _ _ hwrite).2⟩

end PackageListing
