/-
# The plan of a listing

The calls of a listing follow one plan (`list_follows_plan`). Patterns that make no sense lead to no
call, and where no directory upward has a marker there is one, of the go tool. Else the nearest such
directory is the root of a workspace. In it all calls are of the build tool, and each of its three
commands is given once at most: `info` always, `query` when the workspace is known and there is
something to ask for, and `build` when the targets are known and there is something to build
(`Plan`). A call is made only after all calls before it have succeeded (`Course.pairwise_succeeds`),
and one that fails makes the listing fail (`Course.error_of_failed`).
-/

import PackageListing.Proofs.BuildTool
import PackageListing.Proofs.Listing.Assembly

namespace PackageListing
namespace Listing

open PackageListing.Action

section

variable {config : Config} {root directory : String} {options : Options} {selection : Selection}
  {patterns : List String} {w : Workspace} {m m' : Machine} {attempts queries builds : List Attempt}
  {targets : List String}

/-! ### Which calls are made -/

theorem Resolves.mem_iff {r : Except Failure (List String)}
    (h : Resolves config options selection w m queries r m') {a : Attempt} :
    a ∈ queries ↔ queryOf w selection ≠ "" ∧ a = ⟨queryCall config options w selection, m⟩ := by
  cases h with
  | skipped hempty => simp [hempty]
  | unanswered hempty hquery | answered hempty hquery => simp [hempty]

/-- The calls of the build command, which there is one of when the log could be created. -/
theorem Harvests.mem_iff {r : Except Failure (List String)}
    (h : Harvests config options selection w targets m builds r m') {a : Attempt} :
    a ∈ builds ↔ ∃ path m₁, IsWanted selection targets ∧ Build.createLog m = (.ok path, m₁) ∧
      a = ⟨buildCall config options w selection targets path, m₁⟩ := by
  cases h with
  | skipped hwanted => exact ⟨nofun, fun ⟨_, _, hwanted', _⟩ => absurd hwanted' hwanted⟩
  | unlogged hwanted hlog => exact ⟨nofun, fun ⟨_, _, _, hlog', _⟩ => nomatch hlog.symm.trans hlog'⟩
  | unbuilt hwanted hlog | ungathered hwanted hlog | gathered hwanted hlog =>
    rw [List.mem_singleton]
    constructor
    · exact fun ha => ⟨_, _, hwanted, hlog, ha⟩
    · rintro ⟨path', m₁', -, hlog', ha⟩
      cases hlog.symm.trans hlog'
      exact ha

/-- In the order of the commands, each command once at most. -/
def InOrder (config : Config) (attempts : List Attempt) : Prop :=
  (attempts.map fun a => (a.call.tool, a.call.command)).Sublist
    (["info", "query", "build"].map fun command => (config.buildTool, command))

theorem Resolves.sublist {r : Except Failure (List String)}
    (h : Resolves config options selection w m queries r m') :
    (queries.map fun a => (a.call.tool, a.call.command)).Sublist
      [(config.buildTool, "query")] := by
  cases h with
  | skipped => exact List.nil_sublist _
  | unanswered | answered => exact List.Sublist.refl _

theorem Harvests.sublist {r : Except Failure (List String)}
    (h : Harvests config options selection w targets m builds r m') :
    (builds.map fun a => (a.call.tool, a.call.command)).Sublist
      [(config.buildTool, "build")] := by
  cases h with
  | skipped | unlogged => exact List.nil_sublist _
  | unbuilt | ungathered | gathered => exact List.Sublist.refl _

theorem Inside.sublist {r : Except Failure Response}
    (h : Inside config options selection w m attempts r m') :
    (attempts.map fun a => (a.call.tool, a.call.command)).Sublist
      [(config.buildTool, "query"), (config.buildTool, "build")] := by
  cases h with
  | unresolved hresolves => exact hresolves.sublist.trans (List.sublist_append_left [_] [_])
  | unharvested hresolves hharvests | harvested hresolves hharvests =>
    rw [List.map_append]
    exact hresolves.sublist.append hharvests.sublist

/-! ### Which calls succeed -/

theorem Asks.succeeds (h : Asks config root m (.ok w) m') :
    Attempt.Succeeds ⟨infoCall config root, m⟩ := by
  cases h with
  | reported hinfo hreport => exact Attempt.succeeds_of_result hinfo

theorem Resolves.succeeds (h : Resolves config options selection w m queries (.ok targets) m') :
    ∀ a ∈ queries, a.Succeeds := by
  cases h with
  | skipped hempty => nofun
  | answered hempty hquery => exact List.forall_mem_singleton.2 (Attempt.succeeds_of_result hquery)

theorem Harvests.succeeds {files : List String}
    (h : Harvests config options selection w targets m builds (.ok files) m') :
    ∀ a ∈ builds, a.Succeeds := by
  cases h with
  | skipped hwanted => nofun
  | gathered hwanted hlog hbuild hgathered =>
    exact List.forall_mem_singleton.2 (Attempt.succeeds_of_result hbuild)

theorem Resolves.pairwise {r : Except Failure (List String)}
    (h : Resolves config options selection w m queries r m') :
    queries.Pairwise fun earlier _ => earlier.Succeeds := by
  cases h with
  | skipped => exact .nil
  | unanswered | answered => exact List.pairwise_singleton _ _

theorem Harvests.pairwise {r : Except Failure (List String)}
    (h : Harvests config options selection w targets m builds r m') :
    builds.Pairwise fun earlier _ => earlier.Succeeds := by
  cases h with
  | skipped | unlogged => exact .nil
  | unbuilt | ungathered | gathered => exact List.pairwise_singleton _ _

theorem Inside.pairwise_succeeds {r : Except Failure Response}
    (h : Inside config options selection w m attempts r m') :
    attempts.Pairwise fun earlier _ => earlier.Succeeds := by
  cases h with
  | unresolved hresolves => exact hresolves.pairwise
  | unharvested hresolves hharvests | harvested hresolves hharvests =>
    exact List.pairwise_append.2 ⟨hresolves.pairwise, hharvests.pairwise,
      fun a ha _ _ => hresolves.succeeds a ha⟩

/-- **A call waits for the success** of all calls before it. -/
theorem Course.pairwise_succeeds {r : Except Failure Response}
    (h : Course config directory options patterns m attempts r m') :
    attempts.Pairwise fun earlier _ => earlier.Succeeds := by
  cases h with
  | rejected => exact .nil
  | outside | undiscovered => exact List.pairwise_singleton _ _
  | inside hselection hroot hasks hinside =>
    exact List.pairwise_cons.2 ⟨fun _ _ => hasks.succeeds, hinside.pairwise_succeeds⟩

theorem Inside.succeeds {response : Response}
    (h : Inside config options selection w m attempts (.ok response) m') :
    ∀ a ∈ attempts, a.Succeeds := by
  generalize hr : (Except.ok response : Except Failure Response) = r at h
  cases h with
  | unresolved | unharvested => cases hr
  | harvested hresolves hharvests =>
    exact List.forall_mem_append.2 ⟨hresolves.succeeds, hharvests.succeeds⟩

theorem Course.succeeds {response : Response}
    (h : Course config directory options patterns m attempts (.ok response) m') :
    ∀ a ∈ attempts, a.Succeeds := by
  generalize hr : (Except.ok response : Except Failure Response) = r at h
  cases h with
  | rejected | undiscovered => cases hr
  | outside hselection hroot =>
    refine List.forall_mem_singleton.2 (Attempt.succeeds_iff.2 ?_)
    cases hgo : Attempt.result ⟨goCall config options directory patterns, m⟩ with
    | error e =>
      rw [hgo] at hr
      cases hr
    | ok out => exact ⟨out, rfl⟩
  | inside hselection hroot hasks hinside =>
    subst hr
    exact List.forall_mem_cons.2 ⟨hasks.succeeds, hinside.succeeds⟩

/-- **A call that fails** makes the listing fail. -/
theorem Course.error_of_failed {r : Except Failure Response}
    (h : Course config directory options patterns m attempts r m') {a : Attempt}
    (ha : a ∈ attempts) (hfailed : ¬a.Succeeds) : ∃ e, r = .error e := by
  cases r with
  | error e => exact ⟨e, rfl⟩
  | ok response => exact absurd (h.succeeds a ha) hfailed

/-! ### Which runs they come to -/

theorem Asks.runs_eq {r : Except Failure Workspace} (h : Asks config root m r m') :
    m'.runs = m.runs ++ [Attempt.mk (infoCall config root) m].filterMap Attempt.run? := by
  cases h with
  | unanswered | unreported | reported => exact Attempt.runs_after ⟨infoCall config root, m⟩

theorem Resolves.runs_eq {r : Except Failure (List String)}
    (h : Resolves config options selection w m queries r m') :
    m'.runs = m.runs ++ queries.filterMap Attempt.run? := by
  cases h with
  | skipped => exact (List.append_nil _).symm
  | unanswered | answered => exact Attempt.runs_after ⟨queryCall config options w selection, m⟩

theorem Harvests.runs_eq {r : Except Failure (List String)}
    (h : Harvests config options selection w targets m builds r m') :
    m'.runs = m.runs ++ builds.filterMap Attempt.run? := by
  cases h with
  | skipped => exact (List.append_nil _).symm
  | unlogged hwanted hlog => exact (Build.runs_of_createLog hlog).trans (List.append_nil _).symm
  | unbuilt hwanted hlog | ungathered hwanted hlog | gathered hwanted hlog =>
    rw [← Build.runs_of_createLog hlog]
    exact Attempt.runs_after ⟨buildCall config options w selection targets _, _⟩

theorem Inside.runs_eq {r : Except Failure Response}
    (h : Inside config options selection w m attempts r m') :
    m'.runs = m.runs ++ attempts.filterMap Attempt.run? := by
  cases h with
  | unresolved hresolves => exact hresolves.runs_eq
  | unharvested hresolves hharvests | harvested hresolves hharvests =>
    rw [hharvests.runs_eq, hresolves.runs_eq, List.append_assoc, List.filterMap_append]

/-- **The runs of a listing** are those that its calls come to. -/
theorem Course.runs_eq {r : Except Failure Response}
    (h : Course config directory options patterns m attempts r m') :
    m'.runs = m.runs ++ attempts.filterMap Attempt.run? := by
  cases h with
  | rejected => exact (List.append_nil _).symm
  | outside => exact Attempt.runs_after ⟨goCall config options directory patterns, m⟩
  | undiscovered hselection hroot hasks => exact hasks.runs_eq
  | inside hselection hroot hasks hinside =>
    rw [hinside.runs_eq, hasks.runs_eq, List.append_assoc, ← List.filterMap_append]
    rfl

/-! ### The plan -/

/-- Whether a command of the build tool is given. -/
def Gives (attempts : List Attempt) (command : String) : Prop :=
  ∃ a ∈ attempts, a.call.command = command

/-- The plan in a workspace. -/
structure Plan (config : Config) (root : String) (options : Options) (selection : Selection)
    (m : Machine) (attempts : List Attempt) (r : Except Failure Response) : Prop where
  /-- Where things are is asked for first. -/
  head?_eq : attempts.head? = some ⟨infoCall config root, m⟩
  /-- No command is given twice, and they are given in order. -/
  inOrder : InOrder config attempts
  /-- Targets are asked for when it is known where things are, unless the query is empty. -/
  query_iff : Gives attempts "query" ↔
    ∃ w m₁, Workspace.ask config root m = (.ok w, m₁) ∧ queryOf w selection ≠ ""
  /-- Descriptors are built when the targets are known and the log is there, unless there are no
  targets and the standard library is not asked for. -/
  build_iff : Gives attempts "build" ↔
    ∃ w m₁ targets m₂ path m₃, Workspace.ask config root m = (.ok w, m₁) ∧
      resolving config options selection w m₁ = (.ok targets, m₂) ∧
      (targets ≠ [] ∨ selection.standardLibrary ≠ []) ∧ Build.createLog m₂ = (.ok path, m₃)
  /-- There is no response unless each step has succeeded. -/
  completed : ∀ response, r = .ok response → ∃ w m₁ targets m₂ files m₃,
    Workspace.ask config root m = (.ok w, m₁) ∧
      resolving config options selection w m₁ = (.ok targets, m₂) ∧
      harvesting config options selection w targets m₂ = (.ok files, m₃) ∧
      loaded config w options selection targets files m₃.files = .ok response

/-- What is given in order is given to the build tool. -/
theorem InOrder.mem_of_gives {command : String} (h : InOrder config attempts)
    (hgives : Gives attempts command) :
    (config.buildTool, command) ∈ attempts.map fun a => (a.call.tool, a.call.command) := by
  obtain ⟨a, ha, rfl⟩ := hgives
  have hmem : (a.call.tool, a.call.command) ∈
      attempts.map fun a => (a.call.tool, a.call.command) := List.mem_map_of_mem ha
  obtain ⟨_, -, hcommand⟩ := List.mem_map.1 (h.subset hmem)
  rwa [(Prod.mk.inj hcommand).1]

theorem Gives.append_iff {l l' : List Attempt} {command : String} :
    Gives (l ++ l') command ↔ Gives l command ∨ Gives l' command := by
  simp only [Gives, List.mem_append, or_and_right, exists_or]

theorem not_gives_info {command : String} (hcommand : "info" ≠ command) :
    ¬Gives [⟨infoCall config root, m⟩] command := by
  rintro ⟨a, ha, rfl⟩
  rw [List.mem_singleton.1 ha] at hcommand
  exact hcommand rfl

theorem Resolves.gives_iff {r : Except Failure (List String)}
    (h : Resolves config options selection w m queries r m') {command : String} :
    Gives queries command ↔ command = "query" ∧ queryOf w selection ≠ "" := by
  constructor
  · rintro ⟨a, ha, rfl⟩
    obtain ⟨hquery, rfl⟩ := h.mem_iff.1 ha
    exact ⟨rfl, hquery⟩
  · rintro ⟨rfl, hquery⟩
    exact ⟨_, h.mem_iff.2 ⟨hquery, rfl⟩, rfl⟩

theorem Harvests.gives_iff {r : Except Failure (List String)}
    (h : Harvests config options selection w targets m builds r m') {command : String} :
    Gives builds command ↔ command = "build" ∧ IsWanted selection targets ∧
      ∃ path m₁, Build.createLog m = (.ok path, m₁) := by
  constructor
  · rintro ⟨a, ha, rfl⟩
    obtain ⟨path, m₁, hwanted, hlog, rfl⟩ := h.mem_iff.1 ha
    exact ⟨rfl, hwanted, path, m₁, hlog⟩
  · rintro ⟨rfl, hwanted, path, m₁, hlog⟩
    exact ⟨_, h.mem_iff.2 ⟨path, m₁, hwanted, hlog, rfl⟩, rfl⟩

/-- Of the calls after the first, those are made whose turn it is. -/
theorem Inside.gives_query_iff {r : Except Failure Response}
    (h : Inside config options selection w m attempts r m') :
    Gives attempts "query" ↔ queryOf w selection ≠ "" := by
  cases h with
  | unresolved hresolves => simp [hresolves.gives_iff]
  | unharvested hresolves hharvests | harvested hresolves hharvests =>
    simp [Gives.append_iff, hresolves.gives_iff, hharvests.gives_iff]

theorem Inside.gives_build_iff {r : Except Failure Response}
    (h : Inside config options selection w m attempts r m') :
    Gives attempts "build" ↔ ∃ targets m₁ path m₂,
      resolving config options selection w m = (.ok targets, m₁) ∧
        IsWanted selection targets ∧ Build.createLog m₁ = (.ok path, m₂) := by
  cases h with
  | unresolved hresolves =>
    refine ⟨fun h => absurd (hresolves.gives_iff.1 h).1 (by decide), ?_⟩
    rintro ⟨targets, m₁, path, m₂, htargets, -⟩
    cases hresolves.resolving_eq.symm.trans htargets
  | unharvested hresolves hharvests | harvested hresolves hharvests =>
    rw [Gives.append_iff, hresolves.gives_iff, hharvests.gives_iff]
    constructor
    · rintro (⟨h, -⟩ | ⟨-, hwanted, path, m₂, hlog⟩)
      · exact absurd h (by decide)
      · exact ⟨_, _, path, m₂, hresolves.resolving_eq, hwanted, hlog⟩
    · rintro ⟨targets, m₁, path, m₂, htargets, hwanted, hlog⟩
      cases hresolves.resolving_eq.symm.trans htargets
      exact .inr ⟨rfl, hwanted, path, m₂, hlog⟩

theorem plan_undiscovered {e : Failure} (h : Asks config root m (.error e) m') :
    Plan config root options selection m [⟨infoCall config root, m⟩]
      (.error (e.within .discoverWorkspace)) where
  head?_eq := rfl
  inOrder := List.sublist_append_left [_] [_, _]
  query_iff := by
    refine ⟨fun h => absurd h (not_gives_info (by decide)), ?_⟩
    rintro ⟨w, m₁, hask, -⟩
    cases h.ask_eq.symm.trans hask
  build_iff := by
    refine ⟨fun h => absurd h (not_gives_info (by decide)), ?_⟩
    rintro ⟨w, m₁, targets, m₂, path, m₃, hask, -⟩
    cases h.ask_eq.symm.trans hask
  completed := nofun

theorem plan_inside {m₁ : Machine} {r : Except Failure Response}
    (hasks : Asks config root m (.ok w) m₁)
    (hinside : Inside config options selection w m₁ attempts r m') :
    Plan config root options selection m (⟨infoCall config root, m⟩ :: attempts) r where
  head?_eq := rfl
  inOrder := List.Sublist.cons_cons _ hinside.sublist
  query_iff := by
    rw [← List.singleton_append, Gives.append_iff, hinside.gives_query_iff,
      or_iff_right (not_gives_info (by decide))]
    constructor
    · exact fun hquery => ⟨w, m₁, hasks.ask_eq, hquery⟩
    · rintro ⟨w', m₁', hask, hquery⟩
      cases hasks.ask_eq.symm.trans hask
      exact hquery
  build_iff := by
    rw [← List.singleton_append, Gives.append_iff, hinside.gives_build_iff,
      or_iff_right (not_gives_info (by decide))]
    constructor
    · exact fun ⟨targets, m₂, path, m₃, hbuild⟩ =>
        ⟨w, m₁, targets, m₂, path, m₃, hasks.ask_eq, hbuild⟩
    · rintro ⟨w', m₁', targets, m₂, path, m₃, hask, hbuild⟩
      cases hasks.ask_eq.symm.trans hask
      exact ⟨targets, m₂, path, m₃, hbuild⟩
  completed := by
    rintro response rfl
    obtain ⟨targets, m₂, files, hcompleted⟩ := hinside.completed
    exact ⟨w, m₁, targets, m₂, files, m', hasks.ask_eq, hcompleted⟩

/-- **The calls of a listing follow the plan.** -/
theorem list_follows_plan (config : Config) (directory : String) (options : Options)
    (patterns : List String) (m : Machine) :
    (∃ attempts,
      Course config directory options patterns m attempts
        (list config directory options patterns m).1
        (list config directory options patterns m).2 ∧
      (list config directory options patterns m).2.runs =
        m.runs ++ attempts.filterMap Attempt.run? ∧
      attempts.Pairwise (fun earlier _ => earlier.Succeeds) ∧
      (∀ a ∈ attempts, ¬a.Succeeds →
        ∃ e, (list config directory options patterns m).1 = .error e) ∧
      match Selection.ofPatterns patterns with
      | .error _ => attempts = []
      | .ok selection =>
        (Workspace.IsOutside m.files directory →
          attempts = [⟨goCall config options directory patterns, m⟩]) ∧
        ∀ root, Workspace.IsRootAround m.files directory root →
          Plan config root options selection m attempts
            (list config directory options patterns m).1) ∧
    (Workspace.IsOutside m.files directory ∨
      ∃ root, Workspace.IsRootAround m.files directory root) ∧
    ∀ place : FileTree.Place, (∀ name ∈ place, Path.IsName name) → directory = place.path →
      (Workspace.IsOutside m.files directory ↔
        ∀ above : FileTree.Place, above <+: place → ¬Workspace.HasMarker m.files above.path) := by
  refine ⟨?_, Workspace.isOutside_or_exists m.files directory, fun place hnames hplace =>
    hplace ▸ Workspace.isOutside_path_iff hnames⟩
  obtain ⟨attempts, hcourse⟩ := course_list config directory options patterns m
  refine ⟨attempts, hcourse, hcourse.runs_eq, hcourse.pairwise_succeeds,
    fun a ha hfailed => hcourse.error_of_failed ha hfailed, ?_⟩
  simp only [← Workspace.rootAround?_eq_none_iff, ← Workspace.rootAround?_eq_some_iff]
  generalize (list config directory options patterns m).1 = r at hcourse
  generalize (list config directory options patterns m).2 = m' at hcourse
  cases hcourse with
  | rejected hselection => rw [hselection]
  | outside hselection hroot =>
    rw [hselection, hroot]
    exact ⟨fun _ => rfl, nofun⟩
  | undiscovered hselection hroot hasks =>
    rw [hselection, hroot]
    refine ⟨nofun, fun root heq => ?_⟩
    cases heq
    exact plan_undiscovered hasks
  | inside hselection hroot hasks hinside =>
    rw [hselection, hroot]
    refine ⟨nofun, fun root heq => ?_⟩
    cases heq
    exact plan_inside hasks hinside

end

/-- In the workspace with two descriptors each of the three commands is given. -/
theorem list_follows_plan_sample :
    Workspace.IsRootAround (sampleFiles sampleProgram sampleStandard) "/" "/" ∧
    ∃ attempts m' response,
      Course sampleConfig "/" sampleOptions ["//a", "std"]
        (sampleMachine sampleProgram sampleStandard []) attempts (.ok response) m' ∧
      attempts.map (fun a => (a.call.tool, a.call.command)) =
        [("/bazel", "info"), ("/bazel", "query"), ("/bazel", "build")] ∧
      ∀ a ∈ attempts, a.Succeeds := by
  have hroot := Workspace.rootAround?_eq_some_iff.1
    (rootAround?_sample sampleProgram sampleStandard)
  obtain ⟨_, hlist⟩ := list_sample sampleProgram sampleStandard
  obtain ⟨⟨attempts, hcourse, -, -, -, hplan⟩, -⟩ := list_follows_plan sampleConfig "/"
    sampleOptions ["//a", "std"] (sampleMachine sampleProgram sampleStandard [])
  have hselection : Selection.ofPatterns ["//a", "std"] = .ok sampleSelection := rfl
  rw [hselection] at hplan
  have hinside := hplan.2 "/" hroot
  rw [hlist] at hcourse
  refine ⟨hroot, attempts, _, _, hcourse, ?_, hcourse.succeeds⟩
  obtain ⟨runs, hask⟩ := ask_sample sampleProgram sampleStandard
  obtain ⟨runs', htargets⟩ := resolving_sample sampleProgram sampleStandard runs
  have hinfo : Gives attempts "info" :=
    ⟨_, List.mem_of_mem_head? hinside.head?_eq, rfl⟩
  have hquery : Gives attempts "query" :=
    hinside.query_iff.2 ⟨_, _, hask, by decide +kernel⟩
  have hbuild : Gives attempts "build" := hinside.build_iff.2
    ⟨_, _, _, _, _, _, hask, htargets, .inl (by decide), createLog_sample _ _ runs'⟩
  -- A row of the three commands in which each of them is given is the whole row.
  refine hinside.inOrder.eq_of_length_le (List.Nodup.length_le_of_subset (by decide) ?_)
  simp only [List.map_cons, List.map_nil, List.cons_subset, List.nil_subset, and_true]
  exact ⟨hinside.inOrder.mem_of_gives hinfo, hinside.inOrder.mem_of_gives hquery,
    hinside.inOrder.mem_of_gives hbuild⟩

end Listing
end PackageListing
