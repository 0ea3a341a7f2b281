/-
# Command lines of listings

A listing is asked for by switches and by flags for the build, whose values stand behind an equality
sign or in a word of their own (`Written`). Once its words are spelt (`normalize_line`), it is read
setting by setting (`read_written`, `read_all`), and the settings say what was written
(`ofSettings_eq`).

The words are spelt before it is known which of them are values. So a value that is a word of its
own and a known flag with one dash gets a second dash (`Written.map_spelt_words`), and nothing else
changes (`listing_respelt_eq_iff`): the listing is read as it is written just if there is no such
value. The main statement is `parse_line_iff`.
-/

import PackageListing.CommandLine.Commands
import PackageListing.Proofs.CommandLine.Words
import PackageListing.Proofs.Environment

namespace PackageListing
namespace CommandLine

/-! ### Single words -/

namespace Reading

/-- A word that begins with two dashes and goes on is a flag with a name and maybe a value. -/
theorem ofWord_dashed {word : String} {flag : List Char} (hword : word.toList = '-' :: '-' :: flag)
    (hflag : flag ≠ []) :
    ofWord word =
      match Text.cutAt ['='] flag with
      | some (name, value) => .long (String.ofList name) (some (String.ofList value))
      | none => .long (String.ofList flag) none := by
  obtain ⟨c, s, rfl⟩ := List.exists_cons_of_ne_nil hflag
  rw [ofWord, hword]
  rfl

theorem ofWord_long {name : String} (hne : name ≠ "") (hname : '=' ∉ name.toList) :
    ofWord ("--" ++ name) = .long name none := by
  have hflag : name.toList ≠ [] := mt String.toList_eq_nil_iff.1 hne
  have hcut : Text.cutAt ['='] name.toList = none := Text.cutAt_singleton_eq_none_iff.2 hname
  rw [ofWord_dashed String.toList_append hflag, hcut]
  simp only [String.ofList_toList]

theorem ofWord_long_value {name : String} (hname : '=' ∉ name.toList) (value : String) :
    ofWord ("--" ++ (name ++ ("=" ++ value))) = .long name (some value) := by
  have htext : (name ++ ("=" ++ value)).toList = name.toList ++ '=' :: value.toList := by
    rw [String.toList_append, String.toList_append]
    rfl
  have hcut : Text.cutAt ['='] (name ++ ("=" ++ value)).toList =
      some (name.toList, value.toList) :=
    Text.cutAt_singleton_eq_some_iff.2 ⟨htext, hname⟩
  have hflag : (name ++ ("=" ++ value)).toList ≠ [] := by simp [htext]
  rw [ofWord_dashed String.toList_append hflag, hcut]
  simp only [String.ofList_toList]

end Reading

namespace Grammar

variable {g : Grammar} {s s' : Settings} {flag : Flag} {name value word : String}
  {words : List String}

/-- A switch is set by its word. -/
theorem read_switch (hword : Reading.ofWord word = .long name none)
    (hflag : g.longFlag name none = .ok flag) (htakes : flag.takesValue = false)
    (hset : s.set flag "" = .ok s') : g.read s (word :: words) = g.read s' words := by
  rw [read, hword]
  simp only [hflag, htakes, hset]
  rfl

/-- A flag is set to the value behind the equality sign in its word. -/
theorem read_attached (hword : Reading.ofWord word = .long name (some value))
    (hflag : g.longFlag name (some value) = .ok flag) (htakes : flag.takesValue = true)
    (hset : s.set flag value = .ok s') : g.read s (word :: words) = g.read s' words := by
  rw [read, hword]
  simp only [hflag, htakes, hset]
  rfl

/-- A flag is set to the next word, if it takes any. -/
theorem read_apart (hword : Reading.ofWord word = .long name none)
    (hflag : g.longFlag name none = .ok flag) (htakes : flag.takesValue = true)
    (hany : flag.takesAny = true) (hset : s.set flag value = .ok s') :
    g.read s (word :: value :: words) = g.read s' words := by
  rw [read, hword]
  simp only [hflag, htakes, hany, hset]
  simp
  rfl

/-- After the separator all words are kept. -/
theorem read_separator (hwords : g.words ≠ .never) :
    g.read s (separator :: words) = .ok { s with words := s.words ++ words } := by
  have hword : Reading.ofWord separator = .separator := rfl
  rw [read, hword]
  simp [hwords]

end Grammar

/-! ### Listings as they are written -/

/-- The switches of a listing. -/
inductive Switch where
  | tests
  | exports
  | deps
  deriving DecidableEq

/-- The name of a switch. -/
def Switch.name : Switch → String
  | .tests => "test"
  | .exports => "export"
  | .deps => "deps"

/-- The name of the flag for the build. -/
def buildFlag : String := "buildflag"

/-- What may be written for a listing before the separator. -/
inductive Written where
  /-- A switch. -/
  | switch (dashes : Dashes) (s : Switch)
  /-- A flag for the build, with its value behind an equality sign. -/
  | attached (dashes : Dashes) (value : String)
  /-- A flag for the build, with its value in a word of its own. -/
  | apart (dashes : Dashes) (value : String)
  deriving DecidableEq

namespace Written

/-- The words that are written. -/
def words : Written → List String
  | .switch dashes s => [dashes.text ++ s.name]
  | .attached dashes value => [dashes.text ++ (buildFlag ++ ("=" ++ value))]
  | .apart dashes value => [dashes.text ++ buildFlag, value]

/-- The switch that is written. -/
def switch? : Written → Option Switch
  | .switch _ s => some s
  | _ => none

/-- The value that is written. -/
def value? : Written → Option String
  | .switch _ _ => none
  | .attached _ value | .apart _ value => some value

/-- The same with two dashes, also for a value that is a known flag in a word of its own. -/
def respelt : Written → Written
  | .switch _ s => .switch .two s
  | .attached _ value => .attached .two value
  | .apart _ value => .apart .two (spelt driverFlags value)

/-- The flag that is set, and its value. -/
def setting : Written → String × String
  | .switch _ s => (s.name, "")
  | .attached _ value | .apart _ value => (buildFlag, value)

end Written

/-- The listing that is written, with its patterns. -/
def listing (ws : List Written) (patterns : List String) : ListArguments where
  tests := (ws.filterMap Written.switch?).contains .tests
  exports := (ws.filterMap Written.switch?).contains .exports
  deps := (ws.filterMap Written.switch?).contains .deps
  buildFlags := ws.filterMap Written.value?
  patterns := patterns

/-- The command line of a listing. -/
def line (ws : List Written) (patterns : List String) : List String :=
  "gopackagesdriver" :: "list" :: ws.flatMap Written.words ++ separator :: patterns

/-- Each switch is written once at most, and no value is the separator. -/
structure IsListing (ws : List Written) : Prop where
  nodup : (ws.filterMap Written.switch?).Nodup
  values : separator ∉ ws.filterMap Written.value?

/-! ### Spelling -/

theorem isFlagName_of_mem : ∀ name ∈ driverFlags, IsFlagName name := by
  decide

theorem Switch.mem_driverFlags (s : Switch) : s.name ∈ driverFlags := by
  cases s <;> decide

namespace Written

theorem switch?_respelt (w : Written) : w.respelt.switch? = w.switch? := by
  cases w <;> rfl

/-- **What is written is spelt with two dashes,** a value in a word of its own too. -/
theorem map_spelt_words (w : Written) : w.words.map (spelt driverFlags) = w.respelt.words := by
  have hbuild : buildFlag ∈ driverFlags := by decide
  cases w with
  | switch dashes s =>
    rw [words, List.map_singleton, spelt_dashed_name isFlagName_of_mem s.mem_driverFlags]
    rfl
  | attached dashes value =>
    rw [words, List.map_singleton, spelt_dashed isFlagName_of_mem hbuild (.inr ⟨value, rfl⟩)]
    rfl
  | apart dashes value =>
    rw [words, List.map_cons, List.map_singleton, spelt_dashed_name isFlagName_of_mem hbuild]
    rfl

theorem separator_not_mem_words {w : Written} (h : w.value? ≠ some separator) :
    separator ∉ w.words := by
  have hdashed {name : String} (hname : name ∈ driverFlags) (dashes : Dashes) (rest : String) :
      dashes.text ++ (name ++ rest) ≠ separator :=
    (isFlagName_of_mem name hname).dashed_ne_separator dashes rest
  have hbuild : buildFlag ∈ driverFlags := by decide
  cases w with
  | switch dashes s =>
    have hflag := hdashed s.mem_driverFlags dashes ""
    rw [String.append_empty] at hflag
    exact fun hmem => hflag (List.mem_singleton.1 hmem).symm
  | attached dashes value =>
    exact fun hmem => hdashed hbuild dashes _ (List.mem_singleton.1 hmem).symm
  | apart dashes value =>
    have hflag := hdashed hbuild dashes ""
    rw [String.append_empty] at hflag
    intro hmem
    rcases List.mem_cons.1 hmem with heq | hmem
    · exact hflag heq.symm
    · exact h (congrArg some (List.mem_singleton.1 hmem).symm)

end Written

theorem normalize_line {ws : List Written} (h : separator ∉ ws.filterMap Written.value?)
    (patterns : List String) :
    normalize driverFlags (line ws patterns) =
      "gopackagesdriver" :: "list" :: (ws.map Written.respelt).flatMap Written.words ++
        separator :: patterns := by
  have hwords : separator ∉ ws.flatMap Written.words := by
    intro hmem
    obtain ⟨w, hw, hword⟩ := List.mem_flatMap.1 hmem
    exact Written.separator_not_mem_words
      (fun hvalue => h (List.mem_filterMap.2 ⟨w, hw, hvalue⟩)) hword
  have hall : separator ∉ ["gopackagesdriver", "list"] ++ ws.flatMap Written.words :=
    fun hmem => (List.mem_append.1 hmem).elim (by decide) hwords
  have hspelt : (ws.flatMap Written.words).map (spelt driverFlags) =
      (ws.map Written.respelt).flatMap Written.words := by
    simp only [List.map_flatMap, List.flatMap_map, Written.map_spelt_words]
  have hnormal : normalize driverFlags (line ws patterns) =
      (["gopackagesdriver", "list"] ++ ws.flatMap Written.words).map (spelt driverFlags) ++
        separator :: patterns := normalize_append hall patterns
  rw [List.map_append, hspelt] at hnormal
  exact hnormal

/-! ### Reading -/

theorem Switch.name_eq_iff {s t : Switch} : s.name = t.name ↔ s = t := by
  cases s <;> cases t <;> decide

theorem Switch.name_ne_buildFlag (s : Switch) : buildFlag ≠ s.name := by
  cases s <;> decide

theorem Written.setting_eq_name_iff {w : Written} {s : Switch} :
    w.setting.1 = s.name ↔ w.switch? = some s := by
  cases w with
  | switch dashes t => exact Switch.name_eq_iff.trans Option.some_inj.symm
  | attached dashes value => exact ⟨fun h => absurd h s.name_ne_buildFlag, nofun⟩
  | apart dashes value => exact ⟨fun h => absurd h s.name_ne_buildFlag, nofun⟩

/-- What is written with two dashes is read as its setting, if it is no switch that is set. -/
theorem read_written {s : Settings} {w : Written}
    (h : ∀ t ∈ w.switch?, s.isSet t.name = false) (rest : List String) :
    listGrammar.read s (w.respelt.words ++ rest) =
      listGrammar.read { s with values := s.values ++ [w.respelt.setting] } rest := by
  have hbuild : '=' ∉ buildFlag.toList := by decide
  cases w with
  | switch dashes t =>
    have hset : s.set (.switch t.name) "" =
        .ok { s with values := s.values ++ [(t.name, "")] } := by
      simp [Settings.set, Flag.switch, h t rfl]
    have hname : t.name ≠ "" ∧ '=' ∉ t.name.toList := by cases t <;> decide
    have hword := Reading.ofWord_long hname.1 hname.2
    have hflag : listGrammar.longFlag t.name none = .ok (.switch t.name) := by
      cases t <;> rfl
    exact Grammar.read_switch hword hflag rfl hset
  | attached dashes value =>
    exact Grammar.read_attached (Reading.ofWord_long_value hbuild value) rfl rfl rfl
  | apart dashes value =>
    exact Grammar.read_apart (Reading.ofWord_long (by decide) hbuild) rfl rfl rfl rfl

/-- **What is written is read setting by setting,** where no switch comes twice. -/
theorem read_all {s : Settings} {ws : List Written} (hnodup : (ws.filterMap Written.switch?).Nodup)
    (h : ∀ t ∈ ws.filterMap Written.switch?, s.isSet t.name = false) (rest : List String) :
    listGrammar.read s ((ws.map Written.respelt).flatMap Written.words ++ rest) =
      listGrammar.read
        { s with values := s.values ++ (ws.map Written.respelt).map Written.setting } rest := by
  induction ws generalizing s with
  | nil => simp
  | cons w ws ih =>
    have hw : ∀ t ∈ w.switch?, s.isSet t.name = false := fun t ht =>
      h t (List.mem_filterMap.2 ⟨w, List.mem_cons_self, ht⟩)
    have hws : (ws.filterMap Written.switch?).Nodup :=
      hnodup.sublist ((List.sublist_cons_self w ws).filterMap _)
    -- A later switch is set neither before nor by this one, as no switch comes twice.
    have hlater : ∀ t ∈ ws.filterMap Written.switch?, Settings.isSet
        { s with values := s.values ++ [w.respelt.setting] } t.name = false := by
      intro t ht
      have hbefore := h t (((List.sublist_cons_self w ws).filterMap _).subset ht)
      have hother : w.respelt.setting.1 ≠ t.name := by
        rw [Ne, Written.setting_eq_name_iff, Written.switch?_respelt]
        intro hswitch
        rw [List.filterMap_cons, hswitch] at hnodup
        exact (List.nodup_cons.1 hnodup).1 ht
      rw [Settings.isSet] at hbefore ⊢
      rw [List.any_append, hbefore]
      simpa using hother
    rw [List.map_cons, List.flatMap_cons, List.append_assoc, read_written hw, ih hws hlater,
      List.map_cons, List.append_assoc, List.singleton_append]

/-! ### What is read -/

theorem all_buildFlag (ws : List Written) (patterns : List String) :
    Settings.all ⟨ws.map Written.setting, patterns⟩ buildFlag = ws.filterMap Written.value? := by
  rw [Settings.all]
  induction ws with
  | nil => rfl
  | cons w ws ih =>
    rw [List.map_cons, List.filter_cons, List.filterMap_cons]
    cases w with
    | switch dashes t =>
      rw [if_neg (by simpa [Written.setting] using t.name_ne_buildFlag.symm)]
      exact ih
    | attached dashes value => exact congrArg (List.cons value) ih
    | apart dashes value => exact congrArg (List.cons value) ih

/-- The settings of what is written say what is written. -/
theorem ofSettings_eq (ws : List Written) (patterns : List String) :
    ListArguments.ofSettings ⟨ws.map Written.setting, patterns⟩ = listing ws patterns := by
  have hset (t : Switch) : Settings.isSet ⟨ws.map Written.setting, patterns⟩ t.name =
      (ws.filterMap Written.switch?).contains t := by
    rw [Bool.eq_iff_iff, Settings.isSet, List.any_map, List.any_eq_true, List.contains_iff_mem,
      List.mem_filterMap]
    simp only [Function.comp_apply, beq_iff_eq, Written.setting_eq_name_iff]
  rw [listing, ← hset .tests, ← hset .exports, ← hset .deps, ← all_buildFlag ws patterns]
  rfl

/-- **What is read of the command line of a listing:** the listing, with the values that are words
of their own spelt as flags. -/
theorem parse_line {ws : List Written} (h : IsListing ws) (patterns : List String) :
    DriverCommand.parse (line ws patterns) =
      .ok (.list (listing (ws.map Written.respelt) patterns)) := by
  have hread : listGrammar.read noSettings ((ws.map Written.respelt).flatMap Written.words ++
      separator :: patterns) = .ok ⟨(ws.map Written.respelt).map Written.setting, patterns⟩ := by
    rw [read_all h.nodup (fun _ _ => rfl), Grammar.read_separator (by decide)]
    rfl
  rw [DriverCommand.parse, normalize_line h.values, List.cons_append, List.cons_append,
    List.drop_succ_cons, List.drop_zero, DriverCommand.ofWords, hread]
  exact congrArg (fun l => Except.ok (DriverCommand.list l)) (ofSettings_eq _ patterns)

theorem filterMap_value?_respelt_iff (ws : List Written) :
    (ws.map Written.respelt).filterMap Written.value? = ws.filterMap Written.value? ↔
      ∀ dashes value, .apart dashes value ∈ ws → ¬IsShort driverFlags value := by
  induction ws with
  | nil => simp
  | cons w ws ih =>
    rw [List.map_cons, List.filterMap_cons, List.filterMap_cons]
    cases w with
    | switch dashes t => simpa [Written.respelt, Written.value?] using ih
    | attached dashes value => simpa [Written.respelt, Written.value?] using ih
    | apart dashes value =>
      have hhead : spelt driverFlags value = value ↔ ¬IsShort driverFlags value :=
        spelt_eq_self_iff isFlagName_of_mem
      simp only [Written.respelt, Written.value?, List.cons.injEq, hhead, ih]
      constructor
      · rintro ⟨hvalue, hws⟩ dashes' value' hmem
        rcases List.mem_cons.1 hmem with heq | hmem
        · cases heq
          exact hvalue
        · exact hws dashes' value' hmem
      · intro h
        exact ⟨h dashes value List.mem_cons_self, fun dashes' value' hmem =>
          h dashes' value' (List.mem_cons_of_mem _ hmem)⟩

/-- Only the values of a listing may change when its words are spelt. -/
theorem listing_respelt_eq_iff (ws : List Written) (patterns : List String) :
    listing (ws.map Written.respelt) patterns = listing ws patterns ↔
      ∀ dashes value, .apart dashes value ∈ ws → ¬IsShort driverFlags value := by
  have hswitches : (ws.map Written.respelt).filterMap Written.switch? =
      ws.filterMap Written.switch? := by
    rw [List.filterMap_map]
    exact congrArg (fun f => ws.filterMap f) (funext Written.switch?_respelt)
  rw [← filterMap_value?_respelt_iff, listing, listing, hswitches]
  simp

/-- **A listing is read as it is written just if no value that is a word of its own is a known flag
with one dash.** Such a value gets a second dash; all other values, the switches and the patterns
are read as they are written, in their order. -/
theorem parse_line_iff {ws : List Written} (h : IsListing ws) (patterns : List String) :
    DriverCommand.parse (line ws patterns) =
        .ok (.list (listing (ws.map Written.respelt) patterns)) ∧
      (DriverCommand.parse (line ws patterns) = .ok (.list (listing ws patterns)) ↔
        ∀ dashes value, .apart dashes value ∈ ws → ¬IsShort driverFlags value) := by
  refine ⟨parse_line h patterns, ?_⟩
  rw [parse_line h patterns, Except.ok.injEq, DriverCommand.list.injEq]
  exact listing_respelt_eq_iff ws patterns

/-- A listing with flags and values of all forms. -/
def sampleListing : List Written :=
  [.switch .one .deps, .attached .one "-test=x", .apart .one "-c", .switch .two .tests,
    .apart .two "--export", .apart .two "-helper"]

theorem isListing_sample : IsListing sampleListing :=
  ⟨by decide, by decide⟩

theorem not_isShort_sample : ∀ dashes value, .apart dashes value ∈ sampleListing →
    ¬IsShort driverFlags value :=
  (filterMap_value?_respelt_iff sampleListing).1 (by decide)

theorem parse_sampleListing :
    IsListing sampleListing ∧
      (∀ dashes value, .apart dashes value ∈ sampleListing → ¬IsShort driverFlags value) ∧
      DriverCommand.parse ["gopackagesdriver", "list", "-deps", "-buildflag=-test=x", "-buildflag",
          "-c", "--test", "--buildflag", "--export", "--buildflag", "-helper", "--", "//a", "--",
          "-deps"] =
        .ok (.list ⟨true, false, true, ["-test=x", "-c", "--export", "-helper"],
          ["//a", "--", "-deps"]⟩) := by
  have hread := (parse_line_iff isListing_sample ["//a", "--", "-deps"]).2.2 not_isShort_sample
  exact ⟨isListing_sample, not_isShort_sample, hread⟩

/-- **A value that is a word of its own may change:** the value `-test` is read as `--test`. -/
theorem not_parse_line : ¬∀ ws patterns, IsListing ws →
    DriverCommand.parse (line ws patterns) = .ok (.list (listing ws patterns)) := by
  intro h
  have hlisting : IsListing [.apart .one "-test"] := ⟨by decide, by decide⟩
  have hread := (parse_line hlisting []).symm.trans (h _ [] hlisting)
  have hvalues := congrArg ListArguments.buildFlags (DriverCommand.list.inj (Except.ok.inj hread))
  revert hvalues
  decide

end CommandLine
end PackageListing
