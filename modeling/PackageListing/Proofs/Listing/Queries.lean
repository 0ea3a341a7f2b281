/-
# Queries among the patterns of a listing

A pattern may be a query in words (`Pattern.IsQuery`), and then it is no argument of a tool itself:
other arguments stand for it, or none (`Pattern.StandsFor`). In a workspace a listing goes by what
the patterns select and by nothing else of them (`list_of_selection`), and a query that is no longer
answered selects nothing (`ofPatterns_withoutRetired`). Outside of workspaces the go tool is handed
the patterns as they are (`arguments_of_mem_newRuns`). So it is handed what they stand for just
where no pattern is a query (`resolved_self_iff`), and to leave out a query that is no longer
answered changes the run (`list_hands_on`).
-/

import PackageListing.Proofs.Files.Plain
import PackageListing.Proofs.Listing.Assembly
import PackageListing.Proofs.Pattern

namespace PackageListing

/-! ### Queries -/

namespace Pattern

/-- Whether a pattern is a query that is answered or was. -/
def IsQuery (pattern : String) : Prop :=
  ∃ query value, Environment.entry? pattern = some (query, value) ∧
    (query = "file" ∨ query = "pattern" ∨ query = retiredQuery)

/-- Whether a pattern is a query that is no longer answered. -/
def isRetired (pattern : String) : Bool :=
  (Environment.entry? pattern).map Prod.fst == some retiredQuery

/-- The arguments of a tool that a pattern stands for. Which ones stand for the packages of a file
is left open, but the query for them is not one. -/
inductive StandsFor (pattern : String) : List String → Prop
  | file {path : String} {arguments : List String} :
      parse pattern = .ok (.file path) → pattern ∉ arguments → StandsFor pattern arguments
  | ordinary {value : String} : parse pattern = .ok (.ordinary value) → StandsFor pattern [value]
  | standardLibrary {value : String} :
      parse pattern = .ok (.standardLibrary value) → StandsFor pattern [value]
  | nothing : parse pattern = .ok .nothing → StandsFor pattern []

variable {pattern : String}

theorem value_ne_of_entry? {query value : String}
    (h : Environment.entry? pattern = some (query, value)) : value ≠ pattern := by
  obtain ⟨htext, -⟩ := Environment.entry?_eq_some_iff.1 h
  intro heq
  have hlength := congrArg String.length (heq.trans htext)
  have hone : "=".length = 1 := by decide
  rw [String.length_append, String.length_append, hone] at hlength
  omega

theorem parse_of_not_isQuery {p : Pattern} (hquery : ¬IsQuery pattern)
    (h : parse pattern = .ok p) : p = plain pattern := by
  rw [parse] at h
  split at h
  · cases h
    rfl
  · next query value hentry =>
    have hother : ¬(query = "file" ∨ query = "pattern" ∨ query = retiredQuery) :=
      fun hword => hquery ⟨query, value, hentry, hword⟩
    simp only [not_or] at hother
    rw [if_neg hother.1, if_neg hother.2.1, if_neg hother.2.2] at h
    split at h
    · cases h
    · cases h
      rfl

theorem parse_eq_nothing_iff : parse pattern = .ok .nothing ↔ isRetired pattern = true := by
  have hplain : plain pattern ≠ .nothing := by
    rw [plain]
    split
    · exact fun h => by cases h
    · exact fun h => by cases h
  rw [parse, isRetired]
  cases Environment.entry? pattern with
  | none => simp [hplain]
  | some e =>
    obtain ⟨query, value⟩ := e
    simp only [Option.map_some, beq_iff_eq, Option.some_inj]
    split_ifs with hfile hpattern hretired hother
    · simp [hfile, retiredQuery]
    · simp [hpattern, retiredQuery]
    · simp [hretired]
    · simp [hretired]
    · simp [hretired, hplain]

/-- What a pattern stands for is the pattern, or has not got it in it. -/
theorem StandsFor.eq_or_not_mem {arguments : List String} (h : StandsFor pattern arguments) :
    arguments = [pattern] ∨ pattern ∉ arguments := by
  cases h with
  | file _ hmem => exact .inr hmem
  | @ordinary value _ | @standardLibrary value _ =>
    by_cases heq : value = pattern
    · exact .inl (by rw [heq])
    · exact .inr fun hmem => heq (List.mem_singleton.1 hmem).symm
  | nothing => exact .inr List.not_mem_nil

theorem parse_of_isQuery (h : IsQuery pattern) :
    ∃ value, value ≠ pattern ∧ (parse pattern = .ok (.file value) ∨
      parse pattern = .ok (.ordinary value) ∨ parse pattern = .ok .nothing) := by
  obtain ⟨query, value, hentry, hword⟩ := h
  refine ⟨value, value_ne_of_entry? hentry, ?_⟩
  rw [parse, hentry]
  rcases hword with rfl | rfl | rfl
  · exact .inl rfl
  · exact .inr (.inl rfl)
  · exact .inr (.inr rfl)

/-- **Only what is no query stands for itself.** -/
theorem standsFor_self_iff {p : Pattern} (hparse : parse pattern = .ok p) :
    StandsFor pattern [pattern] ↔ ¬IsQuery pattern := by
  constructor
  · intro h hquery
    obtain ⟨value, hvalue, hmeant⟩ := parse_of_isQuery hquery
    cases h with
    | file _ hmem => exact hmem (List.mem_singleton_self _)
    | ordinary hordinary =>
      rw [hordinary] at hmeant
      rcases hmeant with hmeant | hmeant | hmeant
      · cases hmeant
      · cases hmeant
        exact hvalue rfl
      · cases hmeant
    | standardLibrary hstandard =>
      rw [hstandard] at hmeant
      rcases hmeant with hmeant | hmeant | hmeant
      all_goals cases hmeant
  · intro hquery
    have hplain := parse_of_not_isQuery hquery hparse
    rw [plain] at hplain
    split at hplain
    · exact .standardLibrary (hplain ▸ hparse)
    · exact .ordinary (hplain ▸ hparse)

end Pattern

/-! ### What patterns stand for -/

section Pieces

variable {α : Type} {l : List α} {pieces : List (List α)}

/-- Pieces without their members do not make up for what stands before the members. -/
theorem flatten_ne_append (h : List.Forall₂ (fun a piece => piece = [a] ∨ a ∉ piece) l pieces)
    {before : List α} (hbefore : before ≠ []) : pieces.flatten ≠ before ++ l := by
  induction h generalizing before with
  | nil => exact fun heq => hbefore (List.append_eq_nil_iff.1 heq.symm).1
  | @cons a piece l pieces hpiece _ ih =>
    intro heq
    rw [List.flatten_cons] at heq
    -- The piece ends before its member does, so the rest has the member before what is left.
    have hrest : ∃ more, before = piece ++ more ∨
        piece = [a] ∧ pieces.flatten = before.tail ++ a :: l := by
      rcases hpiece with rfl | hmem
      · obtain ⟨first, before, rfl⟩ := List.exists_cons_of_ne_nil hbefore
        exact ⟨[], .inr ⟨rfl, (List.cons.inj heq).2⟩⟩
      · rcases List.append_eq_append_iff.1 heq with ⟨more, hmore, -⟩ | ⟨more, hmore, hcons⟩
        · exact ⟨more, .inl hmore⟩
        · cases more with
          | nil => exact ⟨[], .inl (by rw [hmore, List.append_nil, List.append_nil])⟩
          | cons first more =>
            obtain ⟨rfl, -⟩ := List.cons.inj hcons
            exact absurd (hmore ▸ List.mem_append_right before List.mem_cons_self) hmem
    obtain ⟨more, rfl | ⟨rfl, hflatten⟩⟩ := hrest
    · rw [List.append_assoc, List.append_cancel_left_eq, List.append_cons] at heq
      exact ih (List.append_ne_nil_of_right_ne_nil _ (List.cons_ne_nil a [])) heq
    · rw [List.append_cons] at hflatten
      exact ih (List.append_ne_nil_of_right_ne_nil _ (List.cons_ne_nil a [])) hflatten

/-- Pieces make up their members in a row just if each is its member. -/
theorem flatten_eq_self_iff (h : List.Forall₂ (fun a piece => piece = [a] ∨ a ∉ piece) l pieces) :
    pieces.flatten = l ↔ pieces = l.map fun a => [a] := by
  induction h with
  | nil => simp
  | @cons a piece l pieces hpiece hpieces ih =>
    rw [List.flatten_cons, List.map_cons, List.cons.injEq, ← ih]
    rcases hpiece with rfl | hmem
    · simp
    · constructor
      · intro heq
        cases piece with
        | nil => exact absurd heq (flatten_ne_append hpieces (List.cons_ne_nil a []))
        | cons first piece =>
          obtain ⟨rfl, -⟩ := List.cons.inj heq
          exact absurd List.mem_cons_self hmem
      · rintro ⟨rfl, -⟩
        exact absurd (List.mem_singleton_self a) hmem

end Pieces

/-- The arguments that patterns stand for. -/
def Resolved (patterns arguments : List String) : Prop :=
  ∃ pieces, List.Forall₂ Pattern.StandsFor patterns pieces ∧ arguments = pieces.flatten

namespace Selection

variable {patterns : List String} {selection : Selection}

/-- **Patterns stand for themselves** just if none of them is a query. -/
theorem resolved_self_iff (h : ofPatterns patterns = .ok selection) :
    Resolved patterns patterns ↔ ∀ pattern ∈ patterns, ¬Pattern.IsQuery pattern := by
  have hself : (∀ pattern ∈ patterns, ¬Pattern.IsQuery pattern) ↔
      List.Forall₂ Pattern.StandsFor patterns (patterns.map fun pattern => [pattern]) := by
    rw [List.forall₂_map_right_iff, List.forall₂_same]
    refine forall₂_congr fun pattern hmem => ?_
    obtain ⟨p, hparse⟩ := exists_parse_of_mem h hmem
    exact (Pattern.standsFor_self_iff hparse).symm
  rw [hself]
  constructor
  · rintro ⟨pieces, hpieces, heq⟩
    have hapart := hpieces.imp fun _ _ => Pattern.StandsFor.eq_or_not_mem
    rwa [← (flatten_eq_self_iff hapart).1 heq.symm]
  · refine fun hpieces => ⟨_, hpieces, ?_⟩
    rw [← List.flatMap_def, List.flatMap_singleton']

/-- The patterns without the queries that are no longer answered. -/
def withoutRetired (patterns : List String) : List String :=
  patterns.filter fun pattern => !Pattern.isRetired pattern

theorem mapM_parse_withoutRetired (patterns : List String) :
    (withoutRetired patterns).mapM Pattern.parse =
      (fun parsed => parsed.filter (· ≠ .nothing)) <$> patterns.mapM Pattern.parse := by
  induction patterns with
  | nil => rfl
  | cons pattern patterns ih =>
    rw [withoutRetired, List.filter_cons, List.mapM_cons]
    by_cases hretired : Pattern.isRetired pattern = true
    · rw [if_neg (by rw [hretired]; decide), Pattern.parse_eq_nothing_iff.2 hretired]
      refine ih.trans ?_
      cases patterns.mapM Pattern.parse with
      | error e => rfl
      | ok parsed => exact congrArg Except.ok (List.filter_cons_of_neg (by simp)).symm
    · rw [if_pos (by simpa using hretired), List.mapM_cons]
      cases hparse : Pattern.parse pattern with
      | error e => rfl
      | ok p =>
        have hkept : p ≠ .nothing := by
          rintro rfl
          exact hretired (Pattern.parse_eq_nothing_iff.1 hparse)
        change ((withoutRetired patterns).mapM Pattern.parse >>= fun parsed => pure (p :: parsed)) =
          _
        rw [ih]
        cases patterns.mapM Pattern.parse with
        | error e => rfl
        | ok parsed =>
          exact congrArg Except.ok (List.filter_cons_of_pos (by simpa using hkept)).symm

/-- **A query that is no longer answered selects nothing.** -/
theorem ofPatterns_withoutRetired (patterns : List String) :
    ofPatterns (withoutRetired patterns) = ofPatterns patterns := by
  have hparsed (parsed : List Pattern) : ofParsed (parsed.filter (· ≠ .nothing)) =
      ofParsed parsed := by
    simp only [ofParsed, List.filterMap_filter]
    congr 1
    all_goals
      refine congrArg (List.filterMap · parsed) (funext fun p => ?_)
      cases p <;> rfl
  rw [ofPatterns, ofPatterns, mapM_parse_withoutRetired]
  cases patterns.mapM Pattern.parse with
  | error e => rfl
  | ok parsed => exact congrArg Except.ok (hparsed parsed)

end Selection

/-! ### What tools are handed -/

namespace Listing

/-- The flags of the go tool, outside of workspaces. -/
def goFlags (options : Options) : List String :=
  GoTool.commonFlags ++ (options.buildFlags ++ GoTool.facetFlags options.facets)

/-- The runs of tools that a listing makes. -/
def newRuns (config : Config) (directory : String) (options : Options) (patterns : List String)
    (m : Machine) : List Run :=
  (list config directory options patterns m).2.runs.drop m.runs.length

section

variable {config : Config} {directory root : String} {options : Options}
  {patterns patterns' : List String} {selection : Selection} {m : Machine} {run : Run}

/-- **In a workspace only what is selected counts.** -/
theorem list_of_selection (hroot : Workspace.rootAround? m.files directory = some root)
    (hselection : Selection.ofPatterns patterns = .ok selection)
    (hselection' : Selection.ofPatterns patterns' = .ok selection) :
    list config directory options patterns' m = list config directory options patterns m := by
  rw [list_apply hselection, list_apply hselection', Workspace.discover_of_some hroot]
  have hasks := asks config root m
  generalize Workspace.ask config root m = asked at hasks ⊢
  rcases asked with ⟨e | w, m₁⟩
  · dsimp only
    rw [if_neg hasks.cause_ne, if_neg hasks.cause_ne]
  · rfl

theorem list_of_none (hroot : Workspace.rootAround? m.files directory = none)
    (hselection : Selection.ofPatterns patterns = .ok selection) :
    list config directory options patterns m =
      (answered options (Attempt.result ⟨goCall config options directory patterns, m⟩),
        Attempt.after ⟨goCall config options directory patterns, m⟩) := by
  rw [list_apply hselection, Workspace.discover_of_none hroot]
  exact outside_apply config directory options patterns m

theorem newRuns_of_none (hroot : Workspace.rootAround? m.files directory = none)
    (hselection : Selection.ofPatterns patterns = .ok selection) :
    newRuns config directory options patterns m =
      [Attempt.mk (goCall config options directory patterns) m].filterMap Attempt.run? := by
  rw [newRuns, list_of_none hroot hselection, Attempt.runs_after]
  exact List.drop_left

/-- **Outside of workspaces the go tool is handed the patterns as they are.** -/
theorem arguments_of_mem_newRuns (hroot : Workspace.rootAround? m.files directory = none)
    (hselection : Selection.ofPatterns patterns = .ok selection)
    (hrun : run ∈ newRuns config directory options patterns m) :
    run.arguments = "list" :: (goFlags options ++ ["--"] ++ patterns) := by
  rw [newRuns_of_none hroot hselection] at hrun
  obtain ⟨a, ha, hrun⟩ := List.mem_filterMap.1 hrun
  obtain rfl := List.mem_singleton.1 ha
  obtain ⟨program, place, rfl⟩ := Attempt.exists_of_run? hrun
  rfl

theorem eq_of_mem_newRuns (hroot : Workspace.rootAround? m.files directory = none)
    (hselection : Selection.ofPatterns patterns = .ok selection)
    (hselection' : Selection.ofPatterns patterns' = .ok selection)
    (hrun : run ∈ newRuns config directory options patterns m)
    (hrun' : run ∈ newRuns config directory options patterns' m) : patterns' = patterns := by
  have harguments := (arguments_of_mem_newRuns hroot hselection' hrun').symm.trans
    (arguments_of_mem_newRuns hroot hselection hrun)
  exact List.append_cancel_left (List.cons.inj harguments).2

/-- **A listing resolves queries in a workspace only.** There it goes by what is selected, so that
queries that are no longer answered do not count. Outside of workspaces it starts the go tool once
at most and hands it the patterns as they are. This is what the patterns stand for if none of them
is a query, and else it is not; and with one more query that is no longer answered, or one less,
the run is another one. -/
theorem list_hands_on (hselection : Selection.ofPatterns patterns = .ok selection) :
    match Workspace.rootAround? m.files directory with
    | some _ =>
      (∀ patterns', Selection.ofPatterns patterns' = .ok selection →
        list config directory options patterns' m = list config directory options patterns m) ∧
      ∀ patterns', Selection.withoutRetired patterns' = Selection.withoutRetired patterns →
        list config directory options patterns' m = list config directory options patterns m
    | none =>
      (newRuns config directory options patterns m).length ≤ 1 ∧
      ∀ run ∈ newRuns config directory options patterns m,
        (∃ arguments, run.arguments = "list" :: (goFlags options ++ ["--"] ++ arguments) ∧
          (Resolved patterns arguments ↔ ∀ pattern ∈ patterns, ¬Pattern.IsQuery pattern)) ∧
        ∀ patterns', Selection.withoutRetired patterns' = Selection.withoutRetired patterns →
          (run ∈ newRuns config directory options patterns' m ↔ patterns' = patterns) := by
  have hretired : ∀ patterns',
      Selection.withoutRetired patterns' = Selection.withoutRetired patterns →
        Selection.ofPatterns patterns' = .ok selection := by
    intro patterns' h
    rw [← Selection.ofPatterns_withoutRetired, h, Selection.ofPatterns_withoutRetired, hselection]
  cases hroot : Workspace.rootAround? m.files directory with
  | some root =>
    have hlist : ∀ patterns', Selection.ofPatterns patterns' = .ok selection →
        list config directory options patterns' m = list config directory options patterns m :=
      fun patterns' => list_of_selection hroot hselection
    exact ⟨hlist, fun patterns' h => hlist patterns' (hretired patterns' h)⟩
  | none =>
    refine ⟨?_, fun run hrun => ⟨⟨patterns, arguments_of_mem_newRuns hroot hselection hrun,
      Selection.resolved_self_iff hselection⟩, fun patterns' h => ⟨fun hrun' =>
        eq_of_mem_newRuns hroot hselection (hretired patterns' h) hrun hrun', ?_⟩⟩⟩
    · rw [newRuns_of_none hroot hselection]
      exact List.length_filterMap_le _ _
    · rintro rfl
      exact hrun

end

/-! ### A machine without a workspace -/

/-- A go tool in the root. -/
def outsideConfig : Config :=
  { sampleConfig with goTool := "/go" }

/-- The go tool, and nothing that marks a workspace. -/
def outsideEntries : List (String × FileTree) :=
  [("go", .program "go")]

/-- A machine with these files, where the go tool lists nothing. -/
def outsideMachine : Machine where
  files := ⟨.directory outsideEntries, []⟩
  env := .empty
  behaviour := fun _ tree => ⟨0, [], tree⟩
  runs := []

theorem rootAround?_outside : Workspace.rootAround? outsideMachine.files "/" = none := by
  have hfile : ∀ marker ∈ Workspace.markers,
      outsideMachine.files.isFile (Path.join "/" marker) = false := by
    intro marker hmarker
    have hpath : FileSystem.IsRootPath (Path.join "/" marker) marker ∧
        outsideEntries.lookup marker = none := by
      simp only [Workspace.markers, List.mem_cons, List.not_mem_nil, or_false] at hmarker
      rcases hmarker with rfl | rfl | rfl
      all_goals exact ⟨⟨rfl, rfl, rfl, by decide⟩, rfl⟩
    rw [FileSystem.isFile, FileSystem.get,
      FileSystem.resolve_of_lookup_eq_none hpath.1 rfl hpath.2]
    rfl
  have hancestors : Path.ancestors "/" = ["/"] := by decide
  rw [Workspace.rootAround?, hancestors]
  refine List.find?_cons_of_neg ?_
  simpa [Workspace.isMarked] using hfile

/-- The run of the go tool for some patterns. -/
def outsideRun (patterns : List String) : Run :=
  ⟨"go", "list" :: (goFlags sampleOptions ++ ["--"] ++ patterns), [],
    Environment.overlay .empty [GoTool.driverOff]⟩

theorem prepare_outside (env : Environment) {arguments : List String}
    {changes : List (String × String)}
    (hzero : (arguments.any Machine.hasZero || Machine.changesHaveZero changes) = false) :
    { outsideMachine with env := env }.prepare "/go" arguments "/" changes =
      .ok ⟨"go", arguments, [], Environment.overlay env changes⟩ := by
  have hpath : FileSystem.IsRootPath "/go" "go" := ⟨rfl, rfl, rfl, by decide⟩
  have hroot : outsideMachine.files.tree = .directory outsideEntries := rfl
  have hat : outsideMachine.files.tree.at? [] = some (.directory outsideEntries) := rfl
  have hget := (FileSystem.resolve_of_lookup hpath hroot (t := .program "go") rfl nofun).2
  have hprogram : Machine.findProgram { outsideMachine.files with workingPlace := [] }
      (Environment.overlay env changes) "/go" = .ok "go" := by
    change Machine.programAt _ "/go" = _
    exact Result.bind_eq_ok.2 ⟨_, hget, rfl⟩
  have htool : Machine.hasZero "/go" = false := by decide
  have hdirectory : Machine.hasZero "/" = false := by decide
  refine Attempt.prepare_eq_ok (m := { outsideMachine with env := env }) ?_
    (FileSystem.resolve_root hroot) hat hprogram
  rwa [htool, hdirectory, Bool.false_or, Bool.or_false]

theorem newRuns_outside {patterns : List String} {selection : Selection}
    (hselection : Selection.ofPatterns patterns = .ok selection)
    (hzero : patterns.any Machine.hasZero = false) :
    newRuns outsideConfig "/" sampleOptions patterns outsideMachine = [outsideRun patterns] := by
  have hprepare : outsideMachine.prepare "/go"
      ("list" :: (goFlags sampleOptions ++ ["--"] ++ patterns)) "/" [GoTool.driverOff] =
        .ok (outsideRun patterns) := by
    refine prepare_outside .empty ?_
    rw [List.any_cons, List.any_append, hzero]
    decide
  rw [newRuns_of_none rootAround?_outside hselection, List.filterMap_cons_some, List.filterMap_nil]
  exact congrArg Except.toOption hprepare

/-- A query that is no longer answered, and a pattern. -/
def outsidePatterns : List String :=
  ["iamashamedtousethedisabledqueryname=x", "./..."]

/-- What these patterns select. -/
def outsideSelection : Selection :=
  ⟨[], ["./..."], []⟩

theorem ofPatterns_outside :
    Selection.ofPatterns outsidePatterns = .ok outsideSelection ∧
      Selection.ofPatterns ["./..."] = .ok outsideSelection := by
  decide

/-- The run is another one without the query. -/
theorem list_hands_on_outside :
    outsideRun outsidePatterns ∉
      newRuns outsideConfig "/" sampleOptions ["./..."] outsideMachine := by
  have hlist := @list_hands_on outsideConfig "/" sampleOptions outsidePatterns outsideSelection
    outsideMachine ofPatterns_outside.1
  rw [rootAround?_outside] at hlist
  have hrun : outsideRun outsidePatterns ∈
      newRuns outsideConfig "/" sampleOptions outsidePatterns outsideMachine := by
    rw [newRuns_outside ofPatterns_outside.1 (by decide)]
    exact List.mem_singleton_self _
  intro h
  have heq := ((hlist.2 _ hrun).2 ["./..."] (by decide)).1 h
  exact absurd heq (by decide)

/-- Outside of workspaces the go tool may be handed a query. -/
theorem not_list_resolves :
    ¬∀ (config : Config) (directory : String) (options : Options) (patterns : List String)
      (selection : Selection) (m : Machine), Selection.ofPatterns patterns = .ok selection →
        (∀ run ∈ newRuns config directory options patterns m,
          Workspace.rootAround? m.files directory = none →
            ∃ arguments, run.arguments = "list" :: (goFlags options ++ ["--"] ++ arguments) ∧
              Resolved patterns arguments) ∧
        ∀ patterns', Selection.withoutRetired patterns' = Selection.withoutRetired patterns →
          newRuns config directory options patterns' m =
            newRuns config directory options patterns m := by
  intro h
  have hretired := (h outsideConfig "/" sampleOptions outsidePatterns outsideSelection
    outsideMachine ofPatterns_outside.1).2
  have hruns := hretired ["./..."] (by decide)
  rw [newRuns_outside ofPatterns_outside.1 (by decide),
    newRuns_outside ofPatterns_outside.2 (by decide)] at hruns
  exact absurd hruns (by decide)

end Listing
end PackageListing
