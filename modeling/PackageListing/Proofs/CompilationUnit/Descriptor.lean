/-
# What descriptors of compilation units say

A descriptor of a unit says what its sources contribute (`CompilationUnit.Describes`): the sources
that count, in their order, the first name that one of them declares, and the imports of all of
them, each with the package behind it (`CompilationUnit.StandsBehind`). A unit has a descriptor
just if all its sources can be read (`CompilationUnit.describe_eq_ok_iff`).

What a source imports does not depend on its place among the sources
(`CompilationUnit.exists_describe_of_perm`), and where the paths of the archives differ, neither
does the package behind it on theirs (`CompilationUnit.describe_of_perm`).
-/

import PackageListing.Proofs.CompilationUnit.Draft
import PackageListing.Proofs.Source.Metadata

namespace PackageListing

open Source (Metadata Parser headerParser)
open Result (bind_eq_ok)

namespace CompilationUnit

section

variable (fs : FileSystem) (ctx : Constraint.Context) (parse : Parser) (standardStart : String)

/-- What a source contributes. One that cannot be read contributes nothing. -/
def contribution (preprocessed : Bool) (file : String) : Metadata :=
  match Metadata.read fs ctx file preprocessed parse with
  | .ok m => m
  | .error _ => .unmatched file

/-- Whether a source counts. -/
def keeps (filter : TestFilter) (preprocessed : Bool) (file : String) : Bool :=
  (contribution fs ctx parse preprocessed file).matched &&
    filter.accepts (contribution fs ctx parse preprocessed file).package

/-- The package behind an import: the one of the last archive with its path, or one of the
standard library. -/
inductive StandsBehind (archives : List Archive) : String → String → Prop
  | archive {before after : List Archive} {a : Archive} (heq : archives = before ++ a :: after)
    (hlast : ∀ b ∈ after, b.importPath ≠ a.importPath) :
    StandsBehind archives a.importPath a.label
  | standard {path : String} (hnone : ∀ a ∈ archives, a.importPath ≠ path) :
    StandsBehind archives path (standardStart ++ path)

/-- The name is the first one that a source declares, if one does. -/
def IsNameOf (sources : List String) (name : String) : Prop :=
  (∃ before file after, sources = before ++ file :: after ∧
      (∀ f ∈ before, (contribution fs ctx parse true f).package = "") ∧
      (contribution fs ctx parse true file).package = name ∧ name ≠ "") ∨
    (∀ f ∈ sources, (contribution fs ctx parse true f).package = "") ∧ name = emptyName

/-- What a descriptor says of a unit. -/
structure Describes (u : CompilationUnit) (p : Package) : Prop where
  id : p.id = u.id
  path : p.path = u.importMap
  problems : p.problems = []
  exportFile : p.exportFile = u.exportFile
  goFiles : p.goFiles = u.writtenSources.filter (keeps fs ctx parse u.testFilter false)
  otherFiles : p.otherFiles = u.otherSources.filter fun file =>
    (contribution fs ctx parse false file).matched
  compiledGoFiles : p.compiledGoFiles = u.goSources.filter (keeps fs ctx parse u.testFilter true)
  name : IsNameOf fs ctx parse p.compiledGoFiles p.name
  imports : ∀ path id, p.imports.get? path = some id ↔
    path ≠ "C" ∧
      (∃ file ∈ p.compiledGoFiles, path ∈ (contribution fs ctx parse true file).imports) ∧
      StandsBehind standardStart u.archives path id

/-- All sources of a unit can be read. -/
def Readable (u : CompilationUnit) : Prop :=
  (∀ file ∈ u.writtenSources, ∃ m, Metadata.read fs ctx file false parse = .ok m) ∧
    (∀ file ∈ u.otherSources, ∃ m, Metadata.read fs ctx file false parse = .ok m) ∧
    ∀ file ∈ u.goSources, ∃ m, Metadata.read fs ctx file true parse = .ok m

end

variable {fs : FileSystem} {ctx : Constraint.Context} {parse : Parser} {standardStart : String}
  {u : CompilationUnit} {p : Package}

/-! ### Contributions -/

theorem contribution_of_read {preprocessed : Bool} {file : String} {m : Metadata}
    (h : Metadata.read fs ctx file preprocessed parse = .ok m) :
    contribution fs ctx parse preprocessed file = m := by
  rw [contribution, h]

theorem file_contribution (preprocessed : Bool) (file : String) :
    (contribution fs ctx parse preprocessed file).file = file := by
  rw [contribution]
  split
  · next h => exact Metadata.file_of_read h
  · rfl

theorem map_file_map_contribution (preprocessed : Bool) (files : List String) :
    (files.map (contribution fs ctx parse preprocessed)).map (·.file) = files := by
  rw [List.map_map]
  exact List.map_id'' (file_contribution preprocessed) files

/-- The sources that count contribute what is kept. -/
theorem kept_map_contribution (filter : TestFilter) (preprocessed : Bool) (files : List String) :
    kept filter (files.map (contribution fs ctx parse preprocessed)) =
      (files.filter (keeps fs ctx parse filter preprocessed)).map
        (contribution fs ctx parse preprocessed) :=
  List.filter_map

theorem map_file_kept (filter : TestFilter) (preprocessed : Bool) (files : List String) :
    (kept filter (files.map (contribution fs ctx parse preprocessed))).map (·.file) =
      files.filter (keeps fs ctx parse filter preprocessed) := by
  rw [kept_map_contribution, map_file_map_contribution]

/-! ### Descriptors of what is read -/

/-- **A unit has a descriptor just if all its sources can be read.** -/
theorem describe_eq_ok_iff :
    u.describe fs ctx standardStart parse = .ok p ↔
      u.Readable fs ctx parse ∧ p = ofContributions standardStart u
        (u.writtenSources.map (contribution fs ctx parse false))
        (u.otherSources.map (contribution fs ctx parse false))
        (u.goSources.map (contribution fs ctx parse true)) := by
  rw [describe, bind_eq_ok]
  simp only [bind_eq_ok, Result.mapM_eq_ok_iff contribution_of_read]
  constructor
  · rintro ⟨_, ⟨hwritten, rfl⟩, _, ⟨hother, rfl⟩, _, ⟨hgo, rfl⟩, h⟩
    cases h
    exact ⟨⟨hwritten, hother, hgo⟩, rfl⟩
  · rintro ⟨⟨hwritten, hother, hgo⟩, rfl⟩
    exact ⟨_, ⟨hwritten, rfl⟩, _, ⟨hother, rfl⟩, _, ⟨hgo, rfl⟩, rfl⟩

theorem isNameOf_nameOf (sources : List String) :
    IsNameOf fs ctx parse sources (nameOf (sources.map (contribution fs ctx parse true))) := by
  induction sources with
  | nil => exact .inr ⟨List.forall_mem_nil _, rfl⟩
  | cons file sources ih =>
    by_cases hfile : (contribution fs ctx parse true file).package = ""
    · have hname : nameOf ((file :: sources).map (contribution fs ctx parse true)) =
          nameOf (sources.map (contribution fs ctx parse true)) := by
        simp [nameOf, hfile]
      rw [hname]
      rcases ih with ⟨before, f, after, rfl, hbefore, hf, hne⟩ | ⟨hnone, hname⟩
      · exact .inl ⟨file :: before, f, after, rfl, List.forall_mem_cons.2 ⟨hfile, hbefore⟩, hf, hne⟩
      · exact .inr ⟨List.forall_mem_cons.2 ⟨hfile, hnone⟩, hname⟩
    · have hname : nameOf ((file :: sources).map (contribution fs ctx parse true)) =
          (contribution fs ctx parse true file).package := by
        simp [nameOf, hfile]
      rw [hname]
      exact .inl ⟨[], file, sources, rfl, List.forall_mem_nil _, rfl, hfile⟩

theorem packageBehind_eq_iff {archives : List Archive} {path id : String} :
    packageBehind standardStart archives path = id ↔
      StandsBehind standardStart archives path id := by
  constructor
  · rintro rfl
    rw [packageBehind]
    split
    · next a ha =>
      obtain ⟨hpath, before, after, rfl, hafter⟩ := Names.find?_reverse_eq_some_iff.1 ha
      obtain rfl := eq_of_beq hpath
      exact .archive rfl fun b hb => beq_eq_false_iff_ne.1 (hafter b hb)
    · next hnone =>
      refine .standard fun a ha heq => ?_
      exact List.find?_eq_none.1 hnone a (List.mem_reverse.2 ha) (beq_iff_eq.2 heq)
  · intro h
    cases h with
    | @archive before after a heq hlast =>
      have hfind : archives.reverse.find? (fun b => b.importPath == a.importPath) = some a :=
        Names.find?_reverse_eq_some_iff.2 ⟨beq_self_eq_true a.importPath, before, after, heq,
          fun b hb => beq_eq_false_iff_ne.2 (hlast b hb)⟩
      rw [packageBehind, hfind]
    | standard hnone =>
      have hfind : archives.reverse.find? (fun a => a.importPath == path) = none :=
        List.find?_eq_none.2 fun a ha heq => hnone a (List.mem_reverse.1 ha) (eq_of_beq heq)
      rw [packageBehind, hfind]

theorem get?_importsOf_eq_some_iff {archives : List Archive} {l : List Metadata}
    {path id : String} :
    (importsOf standardStart archives l).get? path = some id ↔
      path ≠ "C" ∧ (∃ m ∈ l, path ∈ m.imports) ∧ StandsBehind standardStart archives path id := by
  rw [importsOf, Names.Map.get?_ofList_map, Option.ite_none_right_eq_some, List.mem_filter,
    List.mem_flatMap, Option.some.injEq, packageBehind_eq_iff, bne_iff_ne, and_assoc]
  exact and_left_comm

theorem describes_of_describe (h : u.describe fs ctx standardStart parse = .ok p) :
    u.Describes fs ctx parse standardStart p := by
  obtain ⟨-, rfl⟩ := describe_eq_ok_iff.1 h
  refine ⟨rfl, rfl, rfl, rfl, map_file_kept _ _ _, ?_, map_file_kept _ _ _, ?_, fun path id => ?_⟩
  · rw [ofContributions, List.filter_map, map_file_map_contribution]
    rfl
  · rw [ofContributions, kept_map_contribution, map_file_map_contribution]
    exact isNameOf_nameOf _
  · rw [ofContributions, kept_map_contribution, map_file_map_contribution,
      get?_importsOf_eq_some_iff]
    simp only [List.mem_map, exists_exists_and_eq_and]

/-! ### The order of sources and archives -/

theorem Readable.of_perm {sources : List String} (hperm : sources.Perm u.goSources)
    (h : u.Readable fs ctx parse) : Readable fs ctx parse { u with goSources := sources } :=
  ⟨h.1, h.2.1, fun file hfile => h.2.2 file (hperm.mem_iff.1 hfile)⟩

/-- In another order the sources import the same. -/
theorem exists_describe_of_perm {sources : List String} (hperm : sources.Perm u.goSources)
    (h : u.describe fs ctx standardStart parse = .ok p) :
    ∃ p', describe fs ctx standardStart { u with goSources := sources } parse = .ok p' ∧
      p'.imports = p.imports := by
  have hreadable := (describe_eq_ok_iff.1 h).1.of_perm hperm
  obtain ⟨p', hp'⟩ : ∃ p',
      describe fs ctx standardStart { u with goSources := sources } parse = .ok p' :=
    ⟨_, describe_eq_ok_iff.2 ⟨hreadable, rfl⟩⟩
  refine ⟨p', hp', Names.Map.ext_get? fun path => Option.ext fun id => ?_⟩
  have hdescribes := describes_of_describe h
  have hdescribes' := describes_of_describe hp'
  rw [hdescribes.imports, hdescribes'.imports,
    hdescribes.compiledGoFiles, hdescribes'.compiledGoFiles]
  simp only [List.mem_filter, hperm.mem_iff]

/-- Of archives with different paths the one with a path is the last one with it. -/
theorem standsBehind_iff_of_nodup {archives : List Archive} {path id : String}
    (hnodup : (archives.map (·.importPath)).Nodup) :
    StandsBehind standardStart archives path id ↔
      (∃ a ∈ archives, a.importPath = path ∧ a.label = id) ∨
        (∀ a ∈ archives, a.importPath ≠ path) ∧ standardStart ++ path = id := by
  constructor
  · intro h
    cases h with
    | archive heq _ =>
      exact .inl ⟨_, heq ▸ List.mem_append_right _ List.mem_cons_self, rfl, rfl⟩
    | standard hnone => exact .inr ⟨hnone, rfl⟩
  · rintro (⟨a, ha, rfl, rfl⟩ | ⟨hnone, rfl⟩)
    · obtain ⟨before, after, rfl⟩ := List.append_of_mem ha
      rw [List.map_append, List.map_cons] at hnodup
      have hlast := (List.nodup_cons.1 (List.nodup_append.1 hnodup).2.1).1
      exact .archive rfl fun b hb heq => hlast (heq ▸ List.mem_map_of_mem hb)
    · exact .standard hnone

theorem importsOf_of_perm {archives archives' : List Archive} (hperm : archives'.Perm archives)
    (hnodup : (archives.map (·.importPath)).Nodup) (l : List Metadata) :
    importsOf standardStart archives' l = importsOf standardStart archives l := by
  have hnodup' := ((hperm.map (·.importPath)).nodup_iff).2 hnodup
  have hbehind : packageBehind standardStart archives' = packageBehind standardStart archives := by
    funext path
    rw [packageBehind_eq_iff, standsBehind_iff_of_nodup hnodup']
    simp only [hperm.mem_iff]
    exact (standsBehind_iff_of_nodup hnodup).1 (packageBehind_eq_iff.1 rfl)
  rw [importsOf, importsOf, hbehind]

/-- The order of archives with different paths does not matter. -/
theorem describe_of_perm {archives : List Archive} (hperm : archives.Perm u.archives)
    (hnodup : (u.archives.map (·.importPath)).Nodup) :
    describe fs ctx standardStart { u with archives := archives } parse =
      describe fs ctx standardStart u parse := by
  simp only [describe, importsOf_of_perm hperm hnodup]

/-! ### Descriptors of units -/

theorem not_readable_iff :
    ¬ u.Readable fs ctx parse ↔
      (∃ file ∈ u.writtenSources ++ u.otherSources,
          ∃ f, Metadata.read fs ctx file false parse = .error f) ∨
        ∃ file ∈ u.goSources, ∃ f, Metadata.read fs ctx file true parse = .error f := by
  simp only [Readable, ← Result.not_ok_iff, List.mem_append, or_and_right, exists_or]
  grind

/-- **A unit has a descriptor unless one of its sources cannot be read,** and the descriptor says
what the sources contribute. It is the one that is drafted source by source. Neither the order of
the sources nor that of archives with different paths matters to the imports. -/
theorem describe_describes (fs : FileSystem) (ctx : Constraint.Context) (standardStart : String)
    (u : CompilationUnit) (parse : Parser) :
    ((∃ f, u.describe fs ctx standardStart parse = .error f) ↔
        (∃ file ∈ u.writtenSources ++ u.otherSources,
            ∃ f, Metadata.read fs ctx file false parse = .error f) ∨
          ∃ file ∈ u.goSources, ∃ f, Metadata.read fs ctx file true parse = .error f) ∧
      u.draft fs ctx standardStart parse = u.describe fs ctx standardStart parse ∧
      ∀ p, u.describe fs ctx standardStart parse = .ok p →
        u.Describes fs ctx parse standardStart p ∧
          (∀ sources : List String, sources.Perm u.goSources →
            ∃ p', describe fs ctx standardStart { u with goSources := sources } parse = .ok p' ∧
              p'.imports = p.imports) ∧
          ∀ archives : List Archive, archives.Perm u.archives →
            (u.archives.map (·.importPath)).Nodup →
            describe fs ctx standardStart { u with archives := archives } parse = .ok p := by
  refine ⟨?_, u.draft_eq fs ctx standardStart parse, fun p h => ⟨describes_of_describe h,
    fun sources hperm => exists_describe_of_perm hperm h,
    fun archives hperm hnodup => (describe_of_perm hperm hnodup).trans h⟩⟩
  rw [← not_readable_iff, ← Result.not_ok_iff]
  simp only [describe_eq_ok_iff, exists_and_left, exists_eq, and_true]

/-- Two sources of a package. -/
def sampleSources : FileSystem where
  tree := .directory
    [("a.go", .file (Text.encode "package p\nimport \"fmt\"\n".toList)),
      ("b.go", .file (Text.encode "package p\nimport \"q\"\n".toList))]
  workingPlace := []

/-- A build without tags. -/
def sampleContext : Constraint.Context := ⟨"linux", "amd64", false, "gc", [], []⟩

/-- A unit with the two sources, two objects, of which one counts, and two archives. -/
def sampleUnit : CompilationUnit where
  id := "//p"
  importPath := "p"
  importMap := "p"
  exportFile := none
  goSources := ["a.go", "b.go"]
  otherSources := ["c_windows.syso", "c.syso"]
  writtenSources := []
  testFilter := .exclude
  archives := [⟨"//q", "q", "q", "q.x"⟩, ⟨"//r", "r", "r", "r.x"⟩]

/-- The descriptor of the unit. -/
def sampleDescriptor : Package where
  id := "//p"
  name := "p"
  path := "p"
  problems := []
  goFiles := []
  compiledGoFiles := ["a.go", "b.go"]
  otherFiles := ["c.syso"]
  exportFile := none
  imports := .ofList [("fmt", "std/fmt"), ("q", "//q")]

theorem describe_sampleUnit :
    sampleUnit.describe sampleSources sampleContext "std/" headerParser = .ok sampleDescriptor := by
  have hfirst : sampleSources.read "a.go" =
      .ok (Text.encode "package p\nimport \"fmt\"\n".toList) :=
    sampleSources.read_of_lookup rfl rfl (by decide +kernel) rfl (by decide) (by decide)
      (by decide) rfl
  have hsecond : sampleSources.read "b.go" =
      .ok (Text.encode "package p\nimport \"q\"\n".toList) :=
    sampleSources.read_of_lookup rfl rfl (by decide +kernel) rfl (by decide) (by decide)
      (by decide) rfl
  have ha : Metadata.read sampleSources sampleContext "a.go" true headerParser =
      .ok ⟨"a.go", true, "p", ["fmt"], false⟩ := by
    rw [Metadata.read, hfirst]
    decide +kernel
  have hb : Metadata.read sampleSources sampleContext "b.go" true headerParser =
      .ok ⟨"b.go", true, "p", ["q"], false⟩ := by
    rw [Metadata.read, hsecond]
    decide +kernel
  have hc : ["c_windows.syso", "c.syso"].mapM
      (fun file => Metadata.read sampleSources sampleContext file false headerParser) =
        .ok [.unmatched "c_windows.syso", .other "c.syso"] := by
    decide +kernel
  simp only [describe, sampleUnit, List.mapM_cons, List.mapM_nil, ha, hb, hc]
  decide +kernel

theorem describe_swapped :
    (∃ p, describe sampleSources sampleContext "std/"
        { sampleUnit with goSources := ["b.go", "a.go"] } headerParser = .ok p ∧
      p.imports = .ofList [("fmt", "std/fmt"), ("q", "//q")]) ∧
    describe sampleSources sampleContext "std/"
        { sampleUnit with archives := sampleUnit.archives.reverse } headerParser =
      .ok sampleDescriptor := by
  have h := (describe_describes sampleSources sampleContext "std/" sampleUnit headerParser).2.2 _
    describe_sampleUnit
  exact ⟨h.2.1 ["b.go", "a.go"] (.swap _ _ _),
    h.2.2 _ (List.reverse_perm _) (by decide)⟩

end CompilationUnit
end PackageListing
