/-
# The identifiers in a response

Outside of workspaces the packages of a response have distinct identifiers, whatever the go tool
prints. In a workspace they have just when the build told of distinct descriptors: no file of a
descriptor may be met twice, in a directory and by its own name, and no two files may carry one
identifier (`list_ids_nodup_iff`).
-/

import PackageListing.Proofs.ImportGraph
import PackageListing.Proofs.Listing.Assembly

namespace PackageListing
namespace Listing

theorem nodup_ids_respond (listed : List ListedPackage) :
    ((GoTool.respond listed).packages.map (·.id)).Nodup :=
  ImportGraph.nodup_ids_reachable _ _

theorem nodup_ids_answered {options : Options} {printed : Except Failure (List UInt8)}
    {response : Response} (h : answered options printed = .ok response) :
    (response.packages.map (·.id)).Nodup := by
  obtain ⟨r, hr, rfl⟩ := Result.map_eq_ok.1 h
  obtain ⟨listed, -, rfl⟩ := Result.map_eq_ok.1 hr
  exact nodup_ids_respond listed

theorem nodup_ids_of_none {config : Config} {directory : String} {options : Options}
    {patterns : List String} {m m' : Machine} {response : Response}
    (hlist : list config directory options patterns m = (.ok response, m'))
    (hroot : Workspace.rootAround? m.files directory = none) :
    (response.packages.map (·.id)).Nodup := by
  obtain ⟨attempts, hcourse⟩ := course_list config directory options patterns m
  rw [hlist] at hcourse
  change Course config directory options patterns m attempts (.ok response) m' at hcourse
  generalize hr : (Except.ok response : Except Failure Response) = r at hcourse
  cases hcourse with
  | rejected | undiscovered => cases hr
  | outside => exact nodup_ids_answered hr.symm
  | inside hselection hsome => cases hroot.symm.trans hsome

/-- The descriptors in some files have distinct identifiers, when no file counts twice and no two
files have one identifier. -/
theorem nodup_ids_iff {fs : FileSystem} {files : List String} {packages : List Package}
    (h : files.mapM (Descriptors.loadFile fs) = .ok packages) :
    (packages.map (·.id)).Nodup ↔ files.Nodup ∧
      ∀ a ∈ files, ∀ b ∈ files, ∀ p q, Descriptors.loadFile fs a = .ok p →
        Descriptors.loadFile fs b = .ok q → p.id = q.id → a = b := by
  -- What is loaded from a file depends on the file alone.
  have hfile : ∀ {a p}, Descriptors.loadFile fs a = .ok p →
      (Descriptors.loadFile fs a).toOption.getD default = p := by
    rintro a p hp
    rw [hp]
    rfl
  obtain ⟨hloaded, rfl⟩ := (Result.mapM_eq_ok_iff hfile).1 h
  rw [List.map_map]
  constructor
  · intro hnodup
    refine ⟨hnodup.of_map _, fun a ha b hb p q hp hq hid => ?_⟩
    refine List.inj_on_of_nodup_map hnodup ha hb ?_
    rw [Function.comp_apply, Function.comp_apply, hfile hp, hfile hq, hid]
  · rintro ⟨hnodup, hdistinct⟩
    refine (List.nodup_map_iff_inj_on hnodup).2 fun a ha b hb hid => ?_
    obtain ⟨p, hp⟩ := hloaded a ha
    obtain ⟨q, hq⟩ := hloaded b hb
    rw [Function.comp_apply, Function.comp_apply, hfile hp, hfile hq] at hid
    exact hdistinct a ha b hb p q hp hq hid

/-- **When identifiers are distinct.** Outside of workspaces they are. In a workspace they are when
no file was expanded twice and no two files carry one identifier. -/
theorem list_ids_nodup_iff {config : Config} {directory : String} {options : Options}
    {patterns : List String} {m m' : Machine} {response : Response}
    (hlist : list config directory options patterns m = (.ok response, m')) :
    match Workspace.rootAround? m.files directory with
    | none => (response.packages.map (·.id)).Nodup
    | some root =>
      ∃ selection w m₁ targets m₂ files expanded, Selection.ofPatterns patterns = .ok selection ∧
        Workspace.ask config root m = (.ok w, m₁) ∧
        resolving config options selection w m₁ = (.ok targets, m₂) ∧
        harvesting config options selection w targets m₂ = (.ok files, m') ∧
        (files.map (Path.join w.binaries)).mapM (Descriptors.filesOf m'.files) = .ok expanded ∧
        ((response.packages.map (·.id)).Nodup ↔ expanded.flatten.Nodup ∧
          ∀ a ∈ expanded.flatten, ∀ b ∈ expanded.flatten, ∀ p q,
            Descriptors.loadFile m'.files a = .ok p → Descriptors.loadFile m'.files b = .ok q →
              p.id = q.id → a = b) := by
  cases hroot : Workspace.rootAround? m.files directory with
  | none => exact nodup_ids_of_none hlist hroot
  | some root =>
    obtain ⟨selection, w, m₁, targets, m₂, files, hselection, hask, htargets, hfiles, hloaded⟩ :=
      (list_eq_ok_iff hroot).1 hlist
    obtain ⟨packages, hload, rfl⟩ := loaded_eq_ok_iff.1 hloaded
    obtain ⟨expanded, hexpanded, hpackages⟩ := Descriptors.load_eq_ok_iff.1 hload
    refine ⟨selection, w, m₁, targets, m₂, files, expanded, hselection, hask, htargets, hfiles,
      hexpanded, ?_⟩
    have hids : ((assemble config w options (!selection.standardLibrary.isEmpty) targets
        packages).packages.map (·.id)) = packages.map (·.id) := by
      simp only [assemble, withSizes, List.map_map]
      rfl
    rw [hids]
    exact nodup_ids_iff hpackages

theorem list_ids_nodup_sample :
    ∃ response m' files,
      list sampleConfig "/" sampleOptions ["//a", "std"]
        (sampleMachine sampleProgram sampleStandard []) = (.ok response, m') ∧
      response.packages.map (·.id) = ["//a", "@io_bazel_rules_go//:stdlib%fmt"] ∧
      List.Nodup files ∧
      ∀ a ∈ files, ∀ b ∈ files, ∀ p q, Descriptors.loadFile m'.files a = .ok p →
        Descriptors.loadFile m'.files b = .ok q → p.id = q.id → a = b := by
  obtain ⟨m', hlist⟩ := list_sample sampleProgram sampleStandard
  have hnodup := list_ids_nodup_iff hlist
  have hroot : Workspace.rootAround? (sampleMachine sampleProgram sampleStandard []).files "/" =
    some "/" := rootAround?_sample _ _
  rw [hroot] at hnodup
  obtain ⟨_, _, _, _, _, _, expanded, _, _, _, _, _, hnodup⟩ := hnodup
  have hids : ["//a", "@io_bazel_rules_go//:stdlib%fmt"].Nodup := by decide
  exact ⟨_, m', expanded.flatten, hlist, rfl, hnodup.1 hids⟩

/-- Two files may carry one identifier, and then the response lists it twice. -/
theorem not_list_ids_nodup :
    ¬∀ (config : Config) (directory : String) (options : Options) (patterns : List String)
      (m m' : Machine) (response : Response),
      list config directory options patterns m = (.ok response, m') →
        (response.packages.map (·.id)).Nodup := by
  intro h
  obtain ⟨m', hlist⟩ := list_sample sampleProgram sampleProgram
  have hnodup : ["//a", "//a"].Nodup := h _ _ _ _ _ _ _ hlist
  exact absurd hnodup (by decide)

end Listing
end PackageListing
