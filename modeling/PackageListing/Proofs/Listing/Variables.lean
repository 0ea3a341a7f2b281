/-
# Variables of the go tool

Outside of workspaces the entries of a request change the variables that the go tool is started
with, and the request is asked for the value of one of them, the architecture, itself. Both come to
the same values (`get?_variables`), except that the tool is always told to ask no other program.
Sizes are those of an architecture that the tool lists for, if the request names one, or if it says
nothing of it and the process does (`architecture_ofRequest`). Where the request leaves it empty,
the tool sees it empty, and the sizes are those that the process asks for (`architecture_of_empty`):
the two may differ then (`not_sizes_of_listed`). What is no entry does not count anywhere
(`answer_entriesOf`). The main statement is `answer_variables`.
-/

import PackageListing.Proofs.Environment.Overlay
import PackageListing.Proofs.Listing.Queries

namespace PackageListing
namespace Listing

open PackageListing.Action
open PackageListing.Environment (IsSet IsLastValue entriesOf)

/-- The variables of a run are those that a request asks for, and else those of the process that
answers it. -/
structure HasVariables (r : Request) (env : Environment) (run : Run) : Prop where
  asked {name : String} (hname : name ≠ "GOPACKAGESDRIVER") (h : IsSet r.env name) :
    ∃ value, IsLastValue r.env name value ∧ r.envValue? name = some value ∧
      run.env.get? name = some value
  kept {name : String} (hname : name ≠ "GOPACKAGESDRIVER") (h : ¬IsSet r.env name) :
    r.envValue? name = none ∧ run.env.get? name = env.get? name
  driver : run.env.get? "GOPACKAGESDRIVER" = some "off"

/-- The architecture is named by the request, or by the process and not by the request. -/
def NamesArchitecture (r : Request) (env : Environment) (value : String) : Prop :=
  IsLastValue r.env "GOARCH" value ∨
    ¬IsSet r.env "GOARCH" ∧ env.get? "GOARCH" = some value

section

variable {config : Config} {directory : String} {r : Request} {patterns : List String}
  {selection : Selection} {m : Machine} {env : Environment} {run : Run} {value : String}

theorem answer_apply (config : Config) (directory : String) (r : Request) (patterns : List String)
    (m : Machine) :
    answer config directory r patterns m =
      list config directory (Options.ofRequest m.env r) patterns m :=
  bind_of_ok (look_apply _ m)

/-! ### The variables of a run -/

/-- **A variable has the value that the request is read to give it,** or the one it had. -/
theorem get?_variables (env : Environment) (r : Request) (name : String) :
    (Environment.overlay env (r.env.filterMap Environment.entry? ++ [GoTool.driverOff])).get? name =
      if name = "GOPACKAGESDRIVER" then some "off"
      else (r.envValue? name).or (env.get? name) := by
  rw [GoTool.driverOff, Environment.get?_overlay_concat, Environment.get?_overlay_entries]
  rfl

theorem hasVariables (hrun : run.env =
    Environment.overlay env (r.env.filterMap Environment.entry? ++ [GoTool.driverOff])) :
    HasVariables r env run where
  asked {name} hname h := by
    obtain ⟨value, hvalue⟩ := Environment.exists_isLastValue h
    have hasked : r.envValue? name = some value := Environment.valueIn?_eq_some_iff.2 hvalue
    refine ⟨value, hvalue, hasked, ?_⟩
    rw [hrun, get?_variables, if_neg hname, hasked, Option.some_or]
  kept {name} hname h := by
    have hasked : r.envValue? name = none := Environment.valueIn?_eq_none_iff.2 h
    refine ⟨hasked, ?_⟩
    rw [hrun, get?_variables, if_neg hname, hasked, Option.none_or]
  driver := by rw [hrun, get?_variables, if_pos rfl]

/-! ### The architecture -/

theorem architecture_ofRequest (hvalue : value ≠ "") (h : NamesArchitecture r env value) :
    (Options.ofRequest env r).architecture = value := by
  have hkept : (some value).filter (fun value => !value.isEmpty) = some value := by
    simp [hvalue]
  rw [Options.ofRequest]
  rcases h with h | ⟨hunset, henv⟩
  · have hasked : r.envValue? "GOARCH" = some value := Environment.valueIn?_eq_some_iff.2 h
    rw [hasked, hkept, Option.getD_some]
  · have hasked : r.envValue? "GOARCH" = none := Environment.valueIn?_eq_none_iff.2 hunset
    rw [hasked, Option.filter_none, Option.getD_none, defaultArchitecture, Environment.nonempty?,
      henv, hkept, Option.getD_some]

/-- An architecture that the request leaves empty is the one that the process asks for. -/
theorem architecture_of_empty (h : IsLastValue r.env "GOARCH" "") :
    (Options.ofRequest env r).architecture = defaultArchitecture env := by
  have hasked : r.envValue? "GOARCH" = some "" := Environment.valueIn?_eq_some_iff.2 h
  rw [Options.ofRequest, hasked]
  rfl

/-- **The tool sees the architecture that is named.** -/
theorem HasVariables.architecture (hrun : HasVariables r env run)
    (h : NamesArchitecture r env value) : run.env.get? "GOARCH" = some value := by
  have hname : "GOARCH" ≠ "GOPACKAGESDRIVER" := by decide
  rcases h with h | ⟨hunset, henv⟩
  · obtain ⟨value', hvalue', -, hget⟩ := hrun.asked hname h.isSet
    have hsame := (Environment.valueIn?_eq_some_iff.2 hvalue').symm.trans
      (Environment.valueIn?_eq_some_iff.2 h)
    rw [hget, Option.some.inj hsame]
  · rw [(hrun.kept hname hunset).2, henv]

theorem answered_of_decode {options : Options} {out : List UInt8} {listed : List ListedPackage}
    (h : GoTool.decode out = .ok listed) :
    answered options (.ok out) = .ok (withSizes options (GoTool.respond listed)) := by
  rw [answered, Result.bind_eq_ok.2 ⟨out, rfl, h⟩]
  rfl

/-- A response has the sizes of the architecture, and the tool has printed something for it. -/
theorem of_answered {options : Options} {printed : Except Failure (List UInt8)}
    {response : Response} (h : answered options printed = .ok response) :
    (∃ out, printed = .ok out) ∧
      response.sizes = some (.ofArchitecture options.architecture) := by
  cases printed with
  | error e => cases h
  | ok out =>
    cases hlisted : GoTool.decode out with
    | error e =>
      have hbind : (Except.ok out >>= GoTool.decode) = .error e := hlisted
      rw [answered, hbind] at h
      cases h
    | ok listed =>
      rw [answered_of_decode hlisted] at h
      cases h
      exact ⟨⟨out, rfl⟩, rfl⟩

/-! ### Texts that are no entries -/

theorem envValue?_entriesOf (r : Request) (name : String) :
    { r with env := entriesOf r.env }.envValue? name = r.envValue? name :=
  Environment.valueIn?_entriesOf r.env name

theorem ofRequest_entriesOf (env : Environment) (r : Request) :
    Options.ofRequest env { r with env := entriesOf r.env } =
      { Options.ofRequest env r with env := entriesOf (Options.ofRequest env r).env } := by
  rw [Options.ofRequest, envValue?_entriesOf]
  rfl

theorem goCall_entriesOf (config : Config) (options : Options) (directory : String)
    (patterns : List String) :
    goCall config { options with env := entriesOf options.env } directory patterns =
      goCall config options directory patterns := by
  rw [goCall, Environment.filterMap_entry?_entriesOf]
  rfl

theorem answer_entriesOf (hselection : Selection.ofPatterns patterns = .ok selection)
    (hroot : Workspace.rootAround? m.files directory = none) :
    answer config directory { r with env := entriesOf r.env } patterns m =
      answer config directory r patterns m := by
  rw [answer_apply, answer_apply, list_of_none hroot hselection, list_of_none hroot hselection,
    ofRequest_entriesOf, goCall_entriesOf]
  rfl

/-- **One run is started at most,** and what it sees of the request are its variables and the
architecture of the response. -/
theorem exists_started (hselection : Selection.ofPatterns patterns = .ok selection)
    (hroot : Workspace.rootAround? m.files directory = none) :
    ∃ started : Option Run,
      (answer config directory r patterns m).2.runs = m.runs ++ started.toList ∧
      (∀ response, (answer config directory r patterns m).1 = .ok response →
        started.isSome = true) ∧
      ∀ run ∈ started, HasVariables r m.env run ∧
        (∀ value, value ≠ "" → NamesArchitecture r m.env value →
          run.env.get? "GOARCH" = some value ∧
          ∀ response, (answer config directory r patterns m).1 = .ok response →
            response.sizes = some (.ofArchitecture value)) ∧
        (IsLastValue r.env "GOARCH" "" →
          run.env.get? "GOARCH" = some "" ∧
          ∀ response, (answer config directory r patterns m).1 = .ok response →
            response.sizes = some (.ofArchitecture (defaultArchitecture m.env))) := by
  rw [answer_apply, list_of_none hroot hselection]
  refine ⟨Attempt.run? ⟨goCall config (Options.ofRequest m.env r) directory patterns, m⟩, ?_,
    fun response hok => ?_, fun run hrun => ?_⟩
  · rw [Attempt.runs_after, List.filterMap_cons, List.filterMap_nil]
    cases Attempt.run? ⟨goCall config (Options.ofRequest m.env r) directory patterns, m⟩ with
    | none => rfl
    | some run => rfl
  · obtain ⟨out, hout⟩ := (of_answered hok).1
    obtain ⟨run, hrun, -⟩ := Attempt.succeeds_of_result hout
    rw [hrun, Option.isSome_some]
  · obtain ⟨program, place, heq⟩ := Attempt.exists_of_run? hrun
    have hvariables : HasVariables r m.env run := hasVariables (congrArg Run.env heq)
    refine ⟨hvariables, fun value hvalue h => ⟨hvariables.architecture h, fun response hok => ?_⟩,
      fun h => ⟨hvariables.architecture (.inl h), fun response hok => ?_⟩⟩
    · rw [(of_answered hok).2, architecture_ofRequest hvalue h]
    · rw [(of_answered hok).2, architecture_of_empty h]

/-- **The go tool sees what a request is read to ask for.** Outside of workspaces one run is started
at most, and it is started if there is a response. Each variable that the entries of the request set
has, in the run, the value that the request is asked for: the one of the last entry, from its first
equality sign on. The others are those of the process, but the one that names a program to ask for
listings is always off. A named architecture that is not empty is the one of the sizes in the
response and the one that the tool lists for. If the request leaves it empty, so does the tool see
it, and the sizes are those that the process asks for. Texts without an equality sign change neither
what the request is asked for nor the answer. -/
theorem answer_variables (hselection : Selection.ofPatterns patterns = .ok selection)
    (hroot : Workspace.rootAround? m.files directory = none) :
    (∃ started : Option Run,
      (answer config directory r patterns m).2.runs = m.runs ++ started.toList ∧
      (∀ response, (answer config directory r patterns m).1 = .ok response →
        started.isSome = true) ∧
      ∀ run ∈ started, HasVariables r m.env run ∧
        (∀ value, value ≠ "" → NamesArchitecture r m.env value →
          run.env.get? "GOARCH" = some value ∧
          ∀ response, (answer config directory r patterns m).1 = .ok response →
            response.sizes = some (.ofArchitecture value)) ∧
        (IsLastValue r.env "GOARCH" "" →
          run.env.get? "GOARCH" = some "" ∧
          ∀ response, (answer config directory r patterns m).1 = .ok response →
            response.sizes = some (.ofArchitecture (defaultArchitecture m.env)))) ∧
    (∀ name, { r with env := entriesOf r.env }.envValue? name = r.envValue? name) ∧
    answer config directory { r with env := entriesOf r.env } patterns m =
      answer config directory r patterns m :=
  ⟨exists_started hselection hroot, envValue?_entriesOf r, answer_entriesOf hselection hroot⟩

end

/-- A request for an architecture, after another one, with a value that has an equality sign, a text
that is no entry, and a program to ask. -/
def sampleRequest : Request where
  command := none
  mode := .deps
  env := ["GOARCH=386", "GOFLAGS", "GOFLAGS=-mod=mod", "GOARCH=arm", "GOPACKAGESDRIVER=/bin/driver"]
  buildFlags := []
  tests := false
  overlay := .empty

theorem result_outside (env : Environment) {c : Call} (htool : c.tool = "/go")
    (hdirectory : c.directory = "/")
    (hzero : ((c.command :: c.arguments).any Machine.hasZero ||
      Machine.changesHaveZero c.changes) = false) :
    Attempt.result ⟨c, { outsideMachine with env := env }⟩ = .ok [] := by
  have hprepare := prepare_outside env hzero
  rw [← htool, ← hdirectory] at hprepare
  exact (Attempt.result_of_prepare (a := ⟨c, { outsideMachine with env := env }⟩) hprepare rfl).1

/-- On such a machine there is a response to a request whose entries can be handed to the tool. -/
theorem exists_answer_outside (env : Environment) {r : Request}
    (hzero : (("list" :: (goCall outsideConfig (Options.ofRequest env r) "/"
      ["./..."]).arguments).any Machine.hasZero || Machine.changesHaveZero
        (r.env.filterMap Environment.entry? ++ [GoTool.driverOff])) = false) :
    ∃ response, (answer outsideConfig "/" r ["./..."]
      { outsideMachine with env := env }).1 = .ok response := by
  have hprinted : Attempt.result ⟨goCall outsideConfig (Options.ofRequest env r) "/" ["./..."],
      { outsideMachine with env := env }⟩ = .ok [] := result_outside env rfl rfl hzero
  have hdecode : GoTool.decode [] = .ok [] := by decide +kernel
  have hroot : Workspace.rootAround? { outsideMachine with env := env }.files "/" = none :=
    rootAround?_outside
  rw [answer_apply, list_of_none hroot ofPatterns_outside.2]
  exact ⟨_, (congrArg (answered _) hprinted).trans (answered_of_decode hdecode)⟩

/-- The run for the request, on a machine that has a go tool and no workspace. -/
theorem answer_variables_arm :
    Selection.ofPatterns ["./..."] = .ok outsideSelection ∧
    Workspace.rootAround? outsideMachine.files "/" = none ∧
    ∃ run, (answer outsideConfig "/" sampleRequest ["./..."] outsideMachine).2.runs = [run] ∧
      run.env.get? "GOFLAGS" = some "-mod=mod" ∧ run.env.get? "GOARCH" = some "arm" ∧
      run.env.get? "GOPACKAGESDRIVER" = some "off" := by
  refine ⟨ofPatterns_outside.2, rootAround?_outside, ?_⟩
  obtain ⟨⟨started, hruns, hstarted, hrun⟩, -⟩ := @answer_variables outsideConfig "/" sampleRequest
    ["./..."] outsideSelection outsideMachine ofPatterns_outside.2 rootAround?_outside
  have hok : ∃ response, (answer outsideConfig "/" sampleRequest ["./..."] outsideMachine).1 =
      .ok response := exists_answer_outside .empty (by decide)
  obtain ⟨response, hresponse⟩ := hok
  obtain ⟨run, rfl⟩ := Option.isSome_iff_exists.1 (hstarted response hresponse)
  obtain ⟨hvariables, harchitecture⟩ := hrun run rfl
  have hflags : sampleRequest.envValue? "GOFLAGS" = some "-mod=mod" := by decide
  have harm : sampleRequest.envValue? "GOARCH" = some "arm" := by decide
  obtain ⟨value, -, hvalue, hget⟩ := hvariables.asked (show "GOFLAGS" ≠ _ by decide)
    (Environment.valueIn?_eq_some_iff.1 hflags).isSet
  refine ⟨run, hruns, ?_, ?_, hvariables.driver⟩
  · rw [hget, ← hvalue, hflags]
  · exact (harchitecture.1 "arm" (by decide) (.inl (Environment.valueIn?_eq_some_iff.1 harm))).1

/-- A request that leaves the architecture empty. -/
def emptyArchitectureRequest : Request :=
  { sampleRequest with env := ["GOARCH="] }

/-- The variables of a process that asks for an architecture. -/
def architectureEnvironment : Environment :=
  .ofList [("GOARCH", "386")]

/-- The sizes need not be those of the architecture that the tool lists for. -/
theorem not_sizes_of_listed :
    ¬∀ (config : Config) (directory : String) (r : Request) (patterns : List String)
      (selection : Selection) (m : Machine) (run : Run) (response : Response) (value : String),
        Selection.ofPatterns patterns = .ok selection →
        Workspace.rootAround? m.files directory = none →
        (answer config directory r patterns m).2.runs = m.runs ++ [run] →
        (answer config directory r patterns m).1 = .ok response → value ≠ "" →
        r.envValue? "GOARCH" = some value ∨ m.env.get? "GOARCH" = some value →
        (Options.ofRequest m.env r).architecture = value →
        response.sizes = some (.ofArchitecture value) → run.env.get? "GOARCH" = some value := by
  intro h
  have hroot : Workspace.rootAround?
      { outsideMachine with env := architectureEnvironment }.files "/" = none := rootAround?_outside
  obtain ⟨response, hresponse⟩ := exists_answer_outside architectureEnvironment
    (r := emptyArchitectureRequest) (by decide)
  obtain ⟨started, hruns, hstarted, hrun⟩ := @exists_started outsideConfig "/"
    emptyArchitectureRequest ["./..."] outsideSelection
    { outsideMachine with env := architectureEnvironment } ofPatterns_outside.2 hroot
  obtain ⟨run, rfl⟩ := Option.isSome_iff_exists.1 (hstarted response hresponse)
  obtain ⟨-, -, hempty⟩ := hrun run rfl
  have hasked : emptyArchitectureRequest.envValue? "GOARCH" = some "" := by decide
  obtain ⟨hget, hsizes⟩ := hempty (Environment.valueIn?_eq_some_iff.1 hasked)
  have hdefault : defaultArchitecture architectureEnvironment = "386" := by decide
  have hlisted := h outsideConfig "/" emptyArchitectureRequest ["./..."] outsideSelection _ run
    response "386" ofPatterns_outside.2 hroot hruns hresponse (by decide) (.inr (by decide))
    (by decide) ((hsizes response hresponse).trans (by rw [hdefault]))
  rw [hget] at hlisted
  exact absurd hlisted (by decide)

end Listing
end PackageListing
