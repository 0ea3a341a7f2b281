/-
# The course of a listing

A listing asks the build tool where things are (`asks`), if there is a workspace at all, and then
for the targets that are meant, unless there is nothing to ask for (`resolves`), and then has their
descriptors built, unless there is nothing to build (`harvests`). Each of these steps ends in one of
a few ways, which `Asks`, `Resolves` and `Harvests` tell, and the first that fails ends the listing.
What the build tool does is never taken for the absence of a workspace (`Asks.cause_ne`): just where
there is none, one call of the go tool is made (`outside_apply`). `Course` puts the steps in a row,
with the calls that are made on the way. A listing goes no other ways (`course_list`).
-/

import PackageListing.Listing
import PackageListing.Proofs.Action
import PackageListing.Proofs.Attempt
import PackageListing.Proofs.Workspace

namespace PackageListing
namespace Listing

open PackageListing.Action

section Calls

variable (config : Config) (options : Options)

/-- The call of the go tool, outside of workspaces. -/
def goCall (directory : String) (patterns : List String) : Call where
  tool := config.goTool
  command := "list"
  arguments := GoTool.commonFlags ++ (options.buildFlags ++ GoTool.facetFlags options.facets) ++
    ["--"] ++ patterns
  directory := directory
  changes := options.env.filterMap Environment.entry? ++ [GoTool.driverOff]

/-- The call of the build tool by a command. -/
def buildToolCall (command root : String) (arguments : List String) : Call where
  tool := config.buildTool
  command := command
  arguments := config.commonFlags ++ arguments
  directory := root
  changes := []

/-- The call that asks where things are. -/
def infoCall (root : String) : Call :=
  buildToolCall config "info" root []

/-- The query for what is selected. It is empty if nothing is to be asked for. -/
def queryOf (w : Workspace) (selection : Selection) : String :=
  Query.expression w.root selection.files selection.patterns

/-- The call that asks for targets. -/
def queryCall (w : Workspace) (selection : Selection) : Call :=
  buildToolCall config "query" w.root
    (config.queryFlags ++ options.buildFlags ++ ["--", queryOf w selection])

/-- The aspect that produces the descriptors. -/
def aspect : String :=
  Build.aspectName config.aspectFile options.facets

/-- The call that builds the descriptors of some targets and leaves its log at a path. -/
def buildCall (w : Workspace) (selection : Selection) (targets : List String) (path : String) :
    Call :=
  buildToolCall config "build" w.root
    (Build.descriptorFlags (aspect config options) path ++
      (options.buildFlags ++ config.buildFlags) ++ ["--"] ++
      (targets ++ if !selection.standardLibrary.isEmpty then [config.standardTarget] else []))

end Calls

/-- Something is to be built: a target, or the standard library. -/
def IsWanted (selection : Selection) (targets : List String) : Prop :=
  targets ≠ [] ∨ selection.standardLibrary ≠ []

theorem isWanted_iff {selection : Selection} {targets : List String} :
    IsWanted selection targets ↔ ¬(targets.isEmpty && selection.standardLibrary.isEmpty) := by
  rw [IsWanted, Bool.and_eq_true, List.isEmpty_iff, List.isEmpty_iff,
    Classical.not_and_iff_not_or_not]

/-! ### What the outputs of tools come to -/

/-- The answer outside of workspaces, by what the go tool prints. -/
def answered (options : Options) (printed : Except Failure (List UInt8)) :
    Except Failure Response :=
  (((printed >>= GoTool.decode).mapError (Failure.within .listWithoutWorkspace)).map
    GoTool.respond).map (withSizes options)

/-- The report in what the build tool prints. -/
def reportOf (out : List UInt8) : Names.Map :=
  BuildTool.parseReport (Text.lossyText out)

/-- The files of descriptors that the log of a build, at a path, tells of. -/
def gathered (aspect path : String) (fs : FileSystem) : Except Failure (List String) := do
  let log ← Failure.duringIo (.readEventLog path) (fs.read path)
  match Build.harvest aspect (.ofBytes log) with
  | .ok files => return files
  | .error defect => throw (.of (.ofHarvest defect))

/-- The machine without the file at a path. -/
def cleared (path : String) (m : Machine) : Machine :=
  { m with files := m.files.remove path }

/-- The response to the descriptors in some files. -/
def loaded (config : Config) (w : Workspace) (options : Options) (selection : Selection)
    (targets files : List String) (fs : FileSystem) : Except Failure Response :=
  (Descriptors.load fs (files.map (Path.join w.binaries))).map
    (assemble config w options (!selection.standardLibrary.isEmpty) targets)

/-! ### The steps in a workspace -/

section Steps

variable (config : Config) (root : String) (options : Options) (selection : Selection)

/-- The step that asks for the targets that are meant. -/
def resolving (w : Workspace) : Action (List String) :=
  ((BuildTool.ofConfig config w.root).targets w.root (config.queryFlags ++ options.buildFlags)
    selection.files selection.patterns).during .resolveTargets

/-- The step that has descriptors built. -/
def harvesting (w : Workspace) (targets : List String) : Action (List String) :=
  (Build.descriptorFiles (BuildTool.ofConfig config w.root) config options.facets
    (options.buildFlags ++ config.buildFlags) targets
    (!selection.standardLibrary.isEmpty)).during .buildDescriptors

/-- What asking where things are leads to. -/
inductive Asks (m : Machine) : Except Failure Workspace → Machine → Prop
  | unanswered {e : Failure} :
      Attempt.result ⟨infoCall config root, m⟩ = .error e →
      Asks m (.error e) (Attempt.after ⟨infoCall config root, m⟩)
  | unreported {out : List UInt8} {e : Failure} :
      Attempt.result ⟨infoCall config root, m⟩ = .ok out →
      Workspace.ofReport config root (reportOf out) = .error e →
      Asks m (.error e) (Attempt.after ⟨infoCall config root, m⟩)
  | reported {out : List UInt8} {w : Workspace} :
      Attempt.result ⟨infoCall config root, m⟩ = .ok out →
      Workspace.ofReport config root (reportOf out) = .ok w →
      Asks m (.ok w) (Attempt.after ⟨infoCall config root, m⟩)

/-- What asking for targets leads to, by these calls. -/
inductive Resolves (w : Workspace) (m : Machine) :
    List Attempt → Except Failure (List String) → Machine → Prop
  | skipped : queryOf w selection = "" → Resolves w m [] (.ok []) m
  | unanswered {e : Failure} :
      queryOf w selection ≠ "" →
      Attempt.result ⟨queryCall config options w selection, m⟩ = .error e →
      Resolves w m [⟨queryCall config options w selection, m⟩] (.error (e.within .resolveTargets))
        (Attempt.after ⟨queryCall config options w selection, m⟩)
  | answered {out : List UInt8} :
      queryOf w selection ≠ "" →
      Attempt.result ⟨queryCall config options w selection, m⟩ = .ok out →
      Resolves w m [⟨queryCall config options w selection, m⟩] (.ok (Query.labels out))
        (Attempt.after ⟨queryCall config options w selection, m⟩)

/-- What having descriptors built leads to, by these calls. -/
inductive Harvests (w : Workspace) (targets : List String) (m : Machine) :
    List Attempt → Except Failure (List String) → Machine → Prop
  | skipped : ¬IsWanted selection targets → Harvests w targets m [] (.ok []) m
  | unlogged {e : Failure} {m₁ : Machine} :
      IsWanted selection targets →
      Build.createLog m = (.error e, m₁) →
      Harvests w targets m [] (.error (e.within .buildDescriptors)) m₁
  | unbuilt {path : String} {m₁ : Machine} {e : Failure} :
      IsWanted selection targets →
      Build.createLog m = (.ok path, m₁) →
      Attempt.result ⟨buildCall config options w selection targets path, m₁⟩ = .error e →
      Harvests w targets m [⟨buildCall config options w selection targets path, m₁⟩]
        (.error (e.within .buildDescriptors))
        (cleared path (Attempt.after ⟨buildCall config options w selection targets path, m₁⟩))
  | ungathered {path : String} {m₁ : Machine} {out : List UInt8} {e : Failure} :
      IsWanted selection targets →
      Build.createLog m = (.ok path, m₁) →
      Attempt.result ⟨buildCall config options w selection targets path, m₁⟩ = .ok out →
      gathered (aspect config options) path
        (Attempt.after ⟨buildCall config options w selection targets path, m₁⟩).files = .error e →
      Harvests w targets m [⟨buildCall config options w selection targets path, m₁⟩]
        (.error (e.within .buildDescriptors))
        (cleared path (Attempt.after ⟨buildCall config options w selection targets path, m₁⟩))
  | gathered {path : String} {m₁ : Machine} {out : List UInt8} {files : List String} :
      IsWanted selection targets →
      Build.createLog m = (.ok path, m₁) →
      Attempt.result ⟨buildCall config options w selection targets path, m₁⟩ = .ok out →
      gathered (aspect config options) path
        (Attempt.after ⟨buildCall config options w selection targets path, m₁⟩).files = .ok files →
      Harvests w targets m [⟨buildCall config options w selection targets path, m₁⟩] (.ok files)
        (cleared path (Attempt.after ⟨buildCall config options w selection targets path, m₁⟩))

end Steps

/-! ### The ways of a listing -/

/-- The ways of a listing in a workspace: the calls that it makes, what it comes to, and the machine
after it. -/
inductive Inside (config : Config) (options : Options) (selection : Selection) (w : Workspace)
    (m : Machine) : List Attempt → Except Failure Response → Machine → Prop
  | unresolved {queries : List Attempt} {m₁ : Machine} {e : Failure} :
      Resolves config options selection w m queries (.error e) m₁ →
      Inside config options selection w m queries (.error e) m₁
  | unharvested {queries builds : List Attempt} {targets : List String} {m₁ m₂ : Machine}
      {e : Failure} :
      Resolves config options selection w m queries (.ok targets) m₁ →
      Harvests config options selection w targets m₁ builds (.error e) m₂ →
      Inside config options selection w m (queries ++ builds) (.error e) m₂
  | harvested {queries builds : List Attempt} {targets files : List String} {m₁ m₂ : Machine} :
      Resolves config options selection w m queries (.ok targets) m₁ →
      Harvests config options selection w targets m₁ builds (.ok files) m₂ →
      Inside config options selection w m (queries ++ builds)
        (loaded config w options selection targets files m₂.files) m₂

/-- The ways of a listing. -/
inductive Course (config : Config) (directory : String) (options : Options)
    (patterns : List String) (m : Machine) :
    List Attempt → Except Failure Response → Machine → Prop
  | rejected {e : Failure} :
      Selection.ofPatterns patterns = .error e →
      Course config directory options patterns m [] (.error e) m
  | outside {selection : Selection} :
      Selection.ofPatterns patterns = .ok selection →
      Workspace.rootAround? m.files directory = none →
      Course config directory options patterns m [⟨goCall config options directory patterns, m⟩]
        (answered options (Attempt.result ⟨goCall config options directory patterns, m⟩))
        (Attempt.after ⟨goCall config options directory patterns, m⟩)
  | undiscovered {selection : Selection} {root : String} {m₁ : Machine} {e : Failure} :
      Selection.ofPatterns patterns = .ok selection →
      Workspace.rootAround? m.files directory = some root →
      Asks config root m (.error e) m₁ →
      Course config directory options patterns m [⟨infoCall config root, m⟩]
        (.error (e.within .discoverWorkspace)) m₁
  | inside {selection : Selection} {root : String} {w : Workspace} {m₁ m₂ : Machine}
      {attempts : List Attempt} {r : Except Failure Response} :
      Selection.ofPatterns patterns = .ok selection →
      Workspace.rootAround? m.files directory = some root →
      Asks config root m (.ok w) m₁ →
      Inside config options selection w m₁ attempts r m₂ →
      Course config directory options patterns m (⟨infoCall config root, m⟩ :: attempts) r m₂

/-! ### There are no other ways -/

section

variable {config : Config} {directory root : String} {options : Options} {patterns : List String}
  {selection : Selection} {w : Workspace} {targets : List String} {m m₁ m' : Machine}

theorem run_apply (config : Config) (command directory : String) (arguments : List String)
    (m : Machine) :
    (BuildTool.ofConfig config directory).run command arguments m =
      (Attempt.result ⟨buildToolCall config command directory arguments, m⟩,
        Attempt.after ⟨buildToolCall config command directory arguments, m⟩) := rfl

/-- **Outside of workspaces the go tool is called once.** -/
theorem outside_apply (config : Config) (directory : String) (options : Options)
    (patterns : List String) (m : Machine) :
    outside config directory options patterns m =
      (answered options (Attempt.result ⟨goCall config options directory patterns, m⟩),
        Attempt.after ⟨goCall config options directory patterns, m⟩) := by
  simp only [outside, GoTool.answer, GoTool.list, bind_pure_apply, bind_ofExcept_apply,
    during_apply]
  rfl

theorem ask_apply (config : Config) (root : String) (m : Machine) :
    Workspace.ask config root m =
      (Attempt.result ⟨infoCall config root, m⟩ >>= fun out =>
        Workspace.ofReport config root (reportOf out),
        Attempt.after ⟨infoCall config root, m⟩) := by
  simp only [Workspace.ask, BuildTool.info, bind_pure_apply, bind_ofExcept_apply, run_apply]
  change ((Attempt.result ⟨infoCall config root, m⟩).map reportOf >>=
    Workspace.ofReport config root, _) = _
  cases Attempt.result ⟨infoCall config root, m⟩ with
  | error e => rfl
  | ok out => rfl

/-- **Where things are** is what the build tool reports. -/
theorem asks (config : Config) (root : String) (m : Machine) :
    Asks config root m (Workspace.ask config root m).1 (Workspace.ask config root m).2 := by
  rw [ask_apply]
  cases hinfo : Attempt.result ⟨infoCall config root, m⟩ with
  | error e => exact .unanswered hinfo
  | ok out =>
    change Asks config root m (Workspace.ofReport config root (reportOf out)) _
    cases hreport : Workspace.ofReport config root (reportOf out) with
    | error e => exact .unreported hinfo hreport
    | ok w => exact .reported hinfo hreport

theorem Asks.ask_eq {r : Except Failure Workspace} (h : Asks config root m r m₁) :
    Workspace.ask config root m = (r, m₁) := by
  rw [ask_apply]
  cases h with
  | unanswered hinfo =>
    rw [hinfo]
    rfl
  | unreported hinfo hreport | reported hinfo hreport =>
    rw [hinfo, ← hreport]
    rfl

/-- **No build tool can deny the workspace,** whatever it does. -/
theorem Asks.cause_ne {e : Failure} (h : Asks config root m (.error e) m₁) :
    e.cause ≠ .noWorkspace := by
  cases h with
  | unanswered hinfo =>
    rcases Attempt.cause_of_result hinfo with ⟨error, hcause⟩ | ⟨status, hcause⟩
    · exact hcause ▸ nofun
    · exact hcause ▸ nofun
  | unreported hinfo hreport =>
    obtain ⟨key, hcause, -⟩ := Workspace.cause_of_ofReport hreport
    exact hcause ▸ nofun

theorem resolving_apply (config : Config) (options : Options) (selection : Selection)
    (w : Workspace) (m : Machine) :
    resolving config options selection w m =
      if queryOf w selection = "" then (.ok [], m)
      else
        (((Attempt.result ⟨queryCall config options w selection, m⟩).map Query.labels).mapError
          (Failure.within .resolveTargets),
          Attempt.after ⟨queryCall config options w selection, m⟩) := by
  rw [resolving, during_apply, BuildTool.targets]
  change Prod.mk (((ite ((queryOf w selection).isEmpty = true) _ _ : Action _) m).1.mapError _)
    ((ite ((queryOf w selection).isEmpty = true) _ _ : Action _) m).2 = _
  simp only [String.isEmpty_iff]
  split
  · rfl
  · simp only [BuildTool.query, bind_pure_apply, run_apply]
    rfl

/-- **The targets** are those that the build tool names, if there is something to ask for. -/
theorem resolves (config : Config) (options : Options) (selection : Selection) (w : Workspace)
    (m : Machine) :
    ∃ queries, Resolves config options selection w m queries
      (resolving config options selection w m).1 (resolving config options selection w m).2 := by
  rw [resolving_apply]
  split
  · next hempty => exact ⟨_, .skipped hempty⟩
  · next hempty =>
    cases hquery : Attempt.result ⟨queryCall config options w selection, m⟩ with
    | error e => exact ⟨_, .unanswered hempty hquery⟩
    | ok out => exact ⟨_, .answered hempty hquery⟩

theorem Resolves.resolving_eq {queries : List Attempt} {r : Except Failure (List String)}
    (h : Resolves config options selection w m queries r m₁) :
    resolving config options selection w m = (r, m₁) := by
  rw [resolving_apply]
  cases h with
  | skipped hempty => rw [if_pos hempty]
  | unanswered hempty hquery | answered hempty hquery =>
    rw [if_neg hempty, hquery]
    rfl

/-- What a call built is told by the log, once the call has succeeded. -/
theorem gather_apply (aspect path : String) (a : Attempt) :
    (do
      (do let _ ← a.call.make)
      let log ← look fun m => Failure.duringIo (.readEventLog path) (m.files.read path)
      match Build.harvest aspect (.ofBytes log) with
      | .ok files => return files
      | .error defect => fail (.ofHarvest defect) : Action (List String)) a.before =
      (a.result >>= fun _ => gathered aspect path a.after.files, a.after) := by
  rw [bind_apply, bind_pure_apply, Attempt.result, Attempt.after]
  rcases a.call.make a.before with ⟨e | out, m'⟩
  · rfl
  · change (look _ >>= _ : Action _) m' = (gathered aspect path m'.files, m')
    rw [bind_apply, look_apply, gathered]
    cases Failure.duringIo (.readEventLog path) (m'.files.read path) with
    | error e => rfl
    | ok log =>
      change (match Build.harvest aspect (.ofBytes log) with
        | .ok files => pure files
        | .error defect => fail (.ofHarvest defect) : Action _) m' =
          ((match Build.harvest aspect (.ofBytes log) with
            | .ok files => pure files
            | .error defect => throw (.of (.ofHarvest defect)) : Except Failure _), m')
      cases Build.harvest aspect (.ofBytes log) with
      | error defect => rfl
      | ok files => rfl

theorem harvesting_of_isWanted {path : String} (hwanted : IsWanted selection targets)
    (hlog : Build.createLog m = (.ok path, m₁)) :
    harvesting config options selection w targets m =
      ((Attempt.result ⟨buildCall config options w selection targets path, m₁⟩ >>= fun _ =>
        gathered (aspect config options) path
          (Attempt.after ⟨buildCall config options w selection targets path, m₁⟩).files).mapError
        (Failure.within .buildDescriptors),
      cleared path (Attempt.after ⟨buildCall config options w selection targets path, m₁⟩)) := by
  rw [harvesting, during_apply, Build.descriptorFiles, Bool.not_not,
    if_neg (isWanted_iff.1 hwanted), bind_of_ok hlog]
  exact congrArg (fun p : Except Failure (List String) × Machine =>
    (p.1.mapError (Failure.within .buildDescriptors), cleared path p.2))
    (gather_apply (aspect config options) path
      ⟨buildCall config options w selection targets path, m₁⟩)

theorem harvesting_of_unlogged {e : Failure} (hwanted : IsWanted selection targets)
    (hlog : Build.createLog m = (.error e, m₁)) :
    harvesting config options selection w targets m =
      (.error (e.within .buildDescriptors), m₁) := by
  rw [harvesting, during_apply, Build.descriptorFiles, Bool.not_not,
    if_neg (isWanted_iff.1 hwanted), bind_of_error hlog]
  rfl

theorem harvesting_of_not_isWanted (hwanted : ¬IsWanted selection targets) :
    harvesting config options selection w targets m = (.ok [], m) := by
  have hempty := Classical.not_not.1 (mt isWanted_iff.2 hwanted)
  rw [harvesting, during_apply, Build.descriptorFiles, Bool.not_not, if_pos hempty]
  rfl

/-- **The files of descriptors** are those that the log of a build tells of, if there is something
to build. -/
theorem harvests (config : Config) (options : Options) (selection : Selection) (w : Workspace)
    (targets : List String) (m : Machine) :
    ∃ builds, Harvests config options selection w targets m builds
      (harvesting config options selection w targets m).1
      (harvesting config options selection w targets m).2 := by
  by_cases hwanted : IsWanted selection targets
  · rcases hlog : Build.createLog m with ⟨e | path, m₁⟩
    · rw [harvesting_of_unlogged hwanted hlog]
      exact ⟨_, .unlogged hwanted hlog⟩
    · rw [harvesting_of_isWanted hwanted hlog]
      cases hbuild : Attempt.result ⟨buildCall config options w selection targets path, m₁⟩ with
      | error e => exact ⟨_, .unbuilt hwanted hlog hbuild⟩
      | ok out =>
        change ∃ builds, Harvests config options selection w targets m builds
          ((gathered (aspect config options) path
            (Attempt.after ⟨buildCall config options w selection targets path, m₁⟩).files).mapError
              _) _
        cases hgathered : gathered (aspect config options) path
            (Attempt.after ⟨buildCall config options w selection targets path, m₁⟩).files with
        | error e => exact ⟨_, .ungathered hwanted hlog hbuild hgathered⟩
        | ok files => exact ⟨_, .gathered hwanted hlog hbuild hgathered⟩
  · rw [harvesting_of_not_isWanted hwanted]
    exact ⟨_, .skipped hwanted⟩

theorem Harvests.harvesting_eq {builds : List Attempt} {r : Except Failure (List String)}
    (h : Harvests config options selection w targets m builds r m₁) :
    harvesting config options selection w targets m = (r, m₁) := by
  cases h with
  | skipped hwanted => exact harvesting_of_not_isWanted hwanted
  | unlogged hwanted hlog => exact harvesting_of_unlogged hwanted hlog
  | unbuilt hwanted hlog hbuild =>
    rw [harvesting_of_isWanted hwanted hlog, hbuild]
    rfl
  | ungathered hwanted hlog hbuild hgathered | gathered hwanted hlog hbuild hgathered =>
    rw [harvesting_of_isWanted hwanted hlog, hbuild]
    exact congrArg (fun r : Except Failure (List String) =>
      (r.mapError (Failure.within .buildDescriptors), _)) hgathered

/-- **In a workspace** there are the ways of `Inside`. -/
theorem inside_ways (config : Config) (options : Options) (selection : Selection) (w : Workspace)
    (m : Machine) :
    ∃ attempts, Inside config options selection w m attempts
      (inside config w options selection m).1 (inside config w options selection m).2 := by
  change ∃ attempts, Inside config options selection w m attempts
    ((resolving config options selection w >>= _ : Action _) m).1
    ((resolving config options selection w >>= _ : Action _) m).2
  obtain ⟨queries, hresolves⟩ := resolves config options selection w m
  rcases htargets : resolving config options selection w m with ⟨e | targets, m₁⟩
  all_goals rw [htargets] at hresolves
  · rw [bind_of_error htargets]
    exact ⟨_, .unresolved hresolves⟩
  rw [bind_of_ok htargets]
  change ∃ attempts, Inside config options selection w m attempts
    ((harvesting config options selection w targets >>= _ : Action _) m₁).1
    ((harvesting config options selection w targets >>= _ : Action _) m₁).2
  obtain ⟨builds, hharvests⟩ := harvests config options selection w targets m₁
  rcases hfiles : harvesting config options selection w targets m₁ with ⟨e | files, m₂⟩
  all_goals rw [hfiles] at hharvests
  · rw [bind_of_error hfiles]
    exact ⟨_, .unharvested hresolves hharvests⟩
  · rw [bind_of_ok hfiles, bind_pure_apply]
    exact ⟨_, .harvested hresolves hharvests⟩

theorem list_apply (hselection : Selection.ofPatterns patterns = .ok selection) :
    list config directory options patterns m =
      (match (Workspace.discover config directory m).1 with
        | .ok workspace => inside config workspace options selection
        | .error failure =>
          if failure.cause = .noWorkspace then outside config directory options patterns
          else Action.ofExcept (.error (failure.within .discoverWorkspace)) : Action Response)
        (Workspace.discover config directory m).2 := by
  have hofExcept : (Action.ofExcept (Selection.ofPatterns patterns) : Action Selection) m =
      (.ok selection, m) := by rw [hselection]; rfl
  refine ((bind_of_ok hofExcept).trans (bind_of_ok (settled_apply _ m))).trans ?_
  cases (Workspace.discover config directory m).1 with
  | ok workspace => rfl
  | error failure => rfl

/-- **Any listing** goes one of the ways of `Course`. -/
theorem course_list (config : Config) (directory : String) (options : Options)
    (patterns : List String) (m : Machine) :
    ∃ attempts, Course config directory options patterns m attempts
      (list config directory options patterns m).1
      (list config directory options patterns m).2 := by
  cases hselection : Selection.ofPatterns patterns with
  | error e =>
    rw [list, hselection]
    exact ⟨_, .rejected hselection⟩
  | ok selection =>
  rw [list_apply hselection]
  cases hroot : Workspace.rootAround? m.files directory with
  | none =>
    rw [Workspace.discover_of_none hroot]
    change ∃ attempts, Course config directory options patterns m attempts
      (outside config directory options patterns m).1
      (outside config directory options patterns m).2
    rw [outside_apply]
    exact ⟨_, .outside hselection hroot⟩
  | some root =>
    rw [Workspace.discover_of_some hroot]
    have hasks := asks config root m
    generalize Workspace.ask config root m = asked at hasks ⊢
    rcases asked with ⟨e | w, m₁⟩
    · dsimp only
      rw [if_neg hasks.cause_ne]
      exact ⟨_, .undiscovered hselection hroot hasks⟩
    · obtain ⟨attempts, hinside⟩ := inside_ways config options selection w m₁
      exact ⟨_, .inside hselection hroot hasks hinside⟩

/-! ### The way of a listing that succeeds -/

theorem Inside.completed {attempts : List Attempt} {response : Response}
    (h : Inside config options selection w m attempts (.ok response) m') :
    ∃ targets m₁ files, resolving config options selection w m = (.ok targets, m₁) ∧
      harvesting config options selection w targets m₁ = (.ok files, m') ∧
      loaded config w options selection targets files m'.files = .ok response := by
  generalize hr : (Except.ok response : Except Failure Response) = r at h
  cases h with
  | unresolved | unharvested => cases hr
  | harvested hresolves hharvests =>
    exact ⟨_, _, _, hresolves.resolving_eq, hharvests.harvesting_eq, rfl⟩

/-- **A listing in a workspace succeeds** when each of its steps does. -/
theorem list_eq_ok_iff {response : Response}
    (hroot : Workspace.rootAround? m.files directory = some root) :
    list config directory options patterns m = (.ok response, m') ↔
      ∃ selection w m₁ targets m₂ files, Selection.ofPatterns patterns = .ok selection ∧
        Workspace.ask config root m = (.ok w, m₁) ∧
        resolving config options selection w m₁ = (.ok targets, m₂) ∧
        harvesting config options selection w targets m₂ = (.ok files, m') ∧
        loaded config w options selection targets files m'.files = .ok response := by
  constructor
  · intro hlist
    obtain ⟨attempts, hcourse⟩ := course_list config directory options patterns m
    rw [hlist] at hcourse
    change Course config directory options patterns m attempts (.ok response) m' at hcourse
    generalize hr : (Except.ok response : Except Failure Response) = r at hcourse
    cases hcourse with
    | rejected | undiscovered => cases hr
    | outside hselection hnone => cases hroot.symm.trans hnone
    | inside hselection hsome hasks hinside =>
      cases hroot.symm.trans hsome
      subst hr
      obtain ⟨targets, m₂, files, hcompleted⟩ := hinside.completed
      exact ⟨_, _, _, targets, m₂, files, hselection, hasks.ask_eq, hcompleted⟩
  · rintro ⟨selection, w, m₁, targets, m₂, files, hselection, hask, htargets, hfiles, hloaded⟩
    rw [list_apply hselection, Workspace.discover_of_some hroot, hask]
    change (resolving config options selection w >>= fun _ => _ : Action _) m₁ = _
    rw [bind_of_ok htargets]
    change (harvesting config options selection w targets >>= fun _ => _ : Action _) m₂ = _
    rw [bind_of_ok hfiles, bind_pure_apply]
    exact congrArg (Prod.mk · m') hloaded

end

end Listing
end PackageListing
