/-
# The standard library among the patterns of a listing

The standard library is no target that a query could find: a pattern that names it is to have a
target of its own built instead. One that stands for itself is kept from the query and has the
target built. One behind the word `pattern` goes into the query like any other pattern
(`mem_queryTerms_iff`), and does not count when the targets of the build are put together
(`Course.build_iff`). So names of the standard library stay out of the query, and have it built,
just where none of them stands behind that word (`list_builds_standardLibrary`).
-/

import PackageListing.Proofs.CompilationUnit.Descriptor
import PackageListing.Proofs.Listing.Assembly
import PackageListing.Proofs.Listing.Plan
import PackageListing.Proofs.Pattern

namespace PackageListing

open Pattern (NamesStandardLibrary)

/-! ### What is queried -/

namespace Selection

/-- The terms of the query for what is selected. -/
def queryTerms (root : String) (s : Selection) : List String :=
  s.patterns ++ s.files.map (Query.fileTerm root)

variable {patterns : List String} {s : Selection} {name : String}

theorem mem_patterns_of_names (h : Selects patterns s) (hname : NamesStandardLibrary name) :
    name ∈ s.patterns ↔ "pattern=" ++ name ∈ patterns := by
  rw [h.mem_patterns_iff]
  constructor
  · rintro ⟨pattern, hmem, hasks⟩
    rcases Pattern.asks_ordinary_iff.1 hasks with rfl | ⟨-, -, hnames⟩
    · exact hmem
    · exact absurd hname hnames
  · exact fun hmem => ⟨_, hmem, .escaped name⟩

/-- The term of a file begins with the name of a function. -/
theorem head?_fileTerm (root file : String) :
    (Query.fileTerm root file).toList.head? = some 'k' := by
  have hword : ("kind(\"go_\", same_pkg_direct_rdeps(" : String).toList.head? = some 'k' := by
    decide +kernel
  change ("kind(\"go_\", same_pkg_direct_rdeps(" ++ Query.quoted _ ++ "))" : String).toList.head? =
    _
  rw [String.toList_append, String.toList_append, List.append_assoc, List.head?_append, hword,
    Option.some_or]

theorem head?_of_names (hname : NamesStandardLibrary name) : name.toList.head? = some 's' := by
  rcases hname with rfl | ⟨separator, -, rest, rfl⟩
  · decide
  · rw [String.toList_append, String.toList_append, List.append_assoc]
    rfl

/-- **A name of the standard library is queried** just if it stands behind the word for patterns. -/
theorem mem_queryTerms_iff (h : Selects patterns s) (root : String)
    (hname : NamesStandardLibrary name) :
    name ∈ s.queryTerms root ↔ "pattern=" ++ name ∈ patterns := by
  rw [queryTerms, List.mem_append, mem_patterns_of_names h hname]
  refine or_iff_left fun hfile => ?_
  obtain ⟨file, -, rfl⟩ := List.mem_map.1 hfile
  have hhead := (head?_fileTerm root file).symm.trans (head?_of_names hname)
  exact absurd hhead (by decide)

theorem standardLibrary_ne_nil_iff (h : Selects patterns s) :
    s.standardLibrary ≠ [] ↔ ∃ name ∈ patterns, NamesStandardLibrary name := by
  simp only [ne_eq, List.eq_nil_iff_forall_not_mem, Classical.not_forall, Classical.not_not,
    h.mem_standardLibrary_iff]

end Selection

/-! ### What is built -/

namespace Listing

variable {config : Config} {options : Options} {directory root path : String}
  {patterns targets : List String} {selection : Selection} {w : Workspace}
  {m m₁ m₂ m₃ m' : Machine} {attempts : List Attempt} {a : Attempt} {r : Except Failure Response}

/-- What a build is for: the targets, and the target of the standard library if a pattern names
it. -/
def builtTargets (config : Config) (patterns targets : List String) : List String :=
  targets ++ if ∃ name ∈ patterns, NamesStandardLibrary name then [config.standardTarget] else []

theorem Resolves.command_eq {queries : List Attempt} {r : Except Failure (List String)}
    (h : Resolves config options selection w m queries r m₁) (ha : a ∈ queries) :
    a.call.command = "query" := by
  obtain ⟨-, rfl⟩ := h.mem_iff.1 ha
  rfl

/-- **The build of a listing** that has found its targets. -/
theorem Inside.build_iff (h : Inside config options selection w m attempts r m')
    (htargets : resolving config options selection w m = (.ok targets, m₁))
    (hlog : Build.createLog m₁ = (.ok path, m₂)) :
    a ∈ attempts ∧ a.call.command = "build" ↔ IsWanted selection targets ∧
      a = ⟨buildCall config options w selection targets path, m₂⟩ := by
  cases h with
  | unresolved hresolves => cases hresolves.resolving_eq.symm.trans htargets
  | unharvested hresolves hharvests | harvested hresolves hharvests =>
    cases hresolves.resolving_eq.symm.trans htargets
    rw [List.mem_append, hharvests.mem_iff]
    constructor
    · rintro ⟨hquery | ⟨path', m₂', hwanted, hlog', ha⟩, hcommand⟩
      · rw [hresolves.command_eq hquery] at hcommand
        exact absurd hcommand (by decide)
      · cases hlog.symm.trans hlog'
        exact ⟨hwanted, ha⟩
    · rintro ⟨hwanted, ha⟩
      refine ⟨.inr ⟨path, m₂, hwanted, hlog, ha⟩, ?_⟩
      rw [ha]
      rfl

theorem Course.inside_of_ask (h : Course config directory options patterns m attempts r m')
    (hselection : Selection.ofPatterns patterns = .ok selection)
    (hroot : Workspace.rootAround? m.files directory = some root)
    (hask : Workspace.ask config root m = (.ok w, m₁)) :
    ∃ later, attempts = ⟨infoCall config root, m⟩ :: later ∧
      Inside config options selection w m₁ later r m' := by
  cases h with
  | rejected hrejected => cases hselection.symm.trans hrejected
  | outside _ hnone => cases hroot.symm.trans hnone
  | undiscovered _ hroot' hasks =>
    cases hroot.symm.trans hroot'
    cases hasks.ask_eq.symm.trans hask
  | inside hselection' hroot' hasks hinside =>
    cases hselection.symm.trans hselection'
    cases hroot.symm.trans hroot'
    cases hasks.ask_eq.symm.trans hask
    exact ⟨_, rfl, hinside⟩

/-- The calls of a listing by the build command, once its targets are found. -/
theorem Course.build_iff (h : Course config directory options patterns m attempts r m')
    (hselection : Selection.ofPatterns patterns = .ok selection)
    (hroot : Workspace.rootAround? m.files directory = some root)
    (hask : Workspace.ask config root m = (.ok w, m₁))
    (htargets : resolving config options selection w m₁ = (.ok targets, m₂))
    (hlog : Build.createLog m₂ = (.ok path, m₃)) :
    a ∈ attempts ∧ a.call.command = "build" ↔
      (targets ≠ [] ∨ ∃ name ∈ patterns, NamesStandardLibrary name) ∧
      a = ⟨buildToolCall config "build" w.root
        (Build.descriptorFlags (aspect config options) path ++
          (options.buildFlags ++ config.buildFlags) ++ ["--"] ++
          builtTargets config patterns targets), m₃⟩ := by
  have hstandard := Selection.standardLibrary_ne_nil_iff
    (Selection.ofPatterns_eq_ok_iff.1 hselection)
  have hbuilt : (targets ++
      if !selection.standardLibrary.isEmpty then [config.standardTarget] else []) =
      builtTargets config patterns targets := by
    simp only [builtTargets, ← hstandard, Bool.not_eq_true', List.isEmpty_eq_false_iff]
  obtain ⟨later, rfl, hinside⟩ := h.inside_of_ask hselection hroot hask
  rw [← hstandard, ← hbuilt, List.mem_cons, or_and_right]
  refine Iff.trans (or_iff_right ?_) (hinside.build_iff htargets hlog)
  rintro ⟨rfl, hcommand⟩
  have hinfo : "info" ≠ "build" := by decide
  exact hinfo hcommand

/-- **The standard library is kept from the query and built** by its names among the patterns. A
name behind the word for patterns is queried like any other pattern, and does not have it built. -/
theorem list_builds_standardLibrary (hselection : Selection.ofPatterns patterns = .ok selection) :
    (∀ name, name ∈ selection.standardLibrary ↔ name ∈ patterns ∧ NamesStandardLibrary name) ∧
    (∀ name, NamesStandardLibrary name →
      (name ∈ selection.patterns ↔ "pattern=" ++ name ∈ patterns)) ∧
    (∀ root, Query.expression root selection.files selection.patterns =
        " + ".intercalate (selection.queryTerms root) ∧
      ∀ name, NamesStandardLibrary name →
        (name ∈ selection.queryTerms root ↔ "pattern=" ++ name ∈ patterns)) ∧
    ∀ config directory options m root, Workspace.rootAround? m.files directory = some root →
      ∃ attempts, Course config directory options patterns m attempts
        (list config directory options patterns m).1
        (list config directory options patterns m).2 ∧
      ∀ w m₁ targets m₂ path m₃, Workspace.ask config root m = (.ok w, m₁) →
        resolving config options selection w m₁ = (.ok targets, m₂) →
        Build.createLog m₂ = (.ok path, m₃) →
        ∀ a, a ∈ attempts ∧ a.call.command = "build" ↔
          (targets ≠ [] ∨ ∃ name ∈ patterns, NamesStandardLibrary name) ∧
          a = ⟨buildToolCall config "build" w.root
            (Build.descriptorFlags (aspect config options) path ++
              (options.buildFlags ++ config.buildFlags) ++ ["--"] ++
              builtTargets config patterns targets), m₃⟩ := by
  have hselects := Selection.ofPatterns_eq_ok_iff.1 hselection
  refine ⟨fun name => hselects.mem_standardLibrary_iff, fun name hname =>
    Selection.mem_patterns_of_names hselects hname, fun root => ⟨rfl, fun name hname =>
      Selection.mem_queryTerms_iff hselects root hname⟩, ?_⟩
  intro config directory options m root hroot
  obtain ⟨attempts, hcourse⟩ := course_list config directory options patterns m
  refine ⟨attempts, hcourse, ?_⟩
  intro w m₁ targets m₂ path m₃ hask htargets hlog a
  exact hcourse.build_iff hselection hroot hask htargets hlog

/-- The build tool is told to build the standard library, and elsewhere it is asked for `std`. -/
theorem list_builds_standardLibrary_sample :
    (Selection.ofPatterns ["//a", "std"] = .ok sampleSelection ∧
      ∃ attempts, Course sampleConfig "/" sampleOptions ["//a", "std"]
        (sampleMachine sampleProgram sampleStandard []) attempts
        (list sampleConfig "/" sampleOptions ["//a", "std"]
          (sampleMachine sampleProgram sampleStandard [])).1
        (list sampleConfig "/" sampleOptions ["//a", "std"]
          (sampleMachine sampleProgram sampleStandard [])).2 ∧
      ∃ a ∈ attempts, a.call.command = "build" ∧
        ["//a", sampleConfig.standardTarget] <:+ a.call.arguments) ∧
    Selection.ofPatterns ["pattern=std"] = .ok ⟨[], ["std"], []⟩ ∧
      "std" ∈ (Selection.mk [] ["std"] []).queryTerms "/" := by
  constructor
  · obtain ⟨-, -, -, hlist⟩ := @list_builds_standardLibrary ["//a", "std"] sampleSelection rfl
    obtain ⟨attempts, hcourse, hbuild⟩ := hlist sampleConfig "/" sampleOptions
      (sampleMachine sampleProgram sampleStandard []) "/" (rootAround?_sample _ _)
    obtain ⟨runs, hask⟩ := ask_sample sampleProgram sampleStandard
    obtain ⟨runs', htargets⟩ := resolving_sample sampleProgram sampleStandard runs
    obtain ⟨hmem, hcommand⟩ := (hbuild _ _ _ _ _ _ hask htargets (createLog_sample _ _ _) _).2
      ⟨.inl (by decide), rfl⟩
    have hbuilt : builtTargets sampleConfig ["//a", "std"] ["//a"] =
        ["//a", sampleConfig.standardTarget] := by
      rw [builtTargets, if_pos (by decide)]
      rfl
    rw [hbuilt] at hmem hcommand
    exact ⟨rfl, attempts, hcourse, _, hmem, hcommand, List.suffix_append _ _⟩
  · obtain ⟨-, -, hquery, -⟩ := @list_builds_standardLibrary ["pattern=std"] ⟨[], ["std"], []⟩ rfl
    exact ⟨rfl, ((hquery "/").2 "std" (by decide)).2 (by decide)⟩

/-- A name of the standard library may get into the query, and not into the build. -/
theorem not_ofPatterns_separates :
    ¬∀ patterns selection, Selection.ofPatterns patterns = .ok selection →
      (∀ name ∈ selection.patterns, ¬NamesStandardLibrary name) ∧
      (∀ root, ∀ term ∈ selection.queryTerms root, ¬NamesStandardLibrary term) ∧
      ∀ name, NamesStandardLibrary name → name ∈ patterns ∨ "pattern=" ++ name ∈ patterns →
        selection.standardLibrary ≠ [] := by
  intro h
  obtain ⟨-, -, hbuilt⟩ := h ["pattern=std"] ⟨[], ["std"], []⟩ rfl
  exact hbuilt "std" (by decide) (by decide) rfl

/-! ### What is a root -/

/-- **The standard library behind an import is a root.** An import of a path that no archive has is
an import of the package that the go tool lists with the path, and where the descriptor of that
package is loaded for a request that names the standard library, the package is a root. -/
theorem packageBehind_mem_roots {archives : List Archive} {l : ListedPackage}
    {loaded : List Package} (hnone : ∀ a ∈ archives, a.importPath ≠ l.importPath)
    (hl : l.toPackage config.standardStart ∈ loaded) (w : Workspace) (targets : List String) :
    CompilationUnit.packageBehind config.standardStart archives l.importPath =
        config.standardId l.importPath ∧
      config.standardId l.importPath ∈ (assemble config w options true targets loaded).roots := by
  refine ⟨CompilationUnit.packageBehind_eq_iff.2 (.standard hnone), ?_⟩
  have hstart : Text.afterStart? config.standardStart.toList
      (config.standardId l.importPath).toList = some l.importPath.toList := by
    rw [Config.standardId, String.toList_append]
    exact Text.afterStart?_eq_some.2 rfl
  refine List.mem_append_right targets (List.mem_filter.2 ⟨?_, by rw [hstart]; rfl⟩)
  exact List.mem_map.2 ⟨_, List.mem_map_of_mem hl, rfl⟩

end Listing
end PackageListing
