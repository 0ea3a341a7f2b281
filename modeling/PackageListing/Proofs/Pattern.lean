/-
# What patterns select

What a pattern asks for shows in its text (`Pattern.Asks`): a word of small letters before an
equality sign makes it a query (`Pattern.IsQueryBy`), of a kind that is known or not, and any other
pattern is kept whole, for the standard library or for the build tool (`Pattern.parse_eq_ok_iff`).
So patterns fail at the first one with an unknown word (`Selection.ofPatterns_eq_error_iff`); else
each of them goes to one kind of what is selected, or is dropped, and all stay in order
(`Selection.ofPatterns_eq_ok_iff`). Rows of patterns may be read one after the other
(`Selection.ofPatterns_append`).
-/

import Mathlib.Data.List.Basic
import Mathlib.Tactic.SplitIfs
import PackageListing.Pattern
import PackageListing.Proofs.Environment

namespace PackageListing

open Result (bind_eq_ok)

namespace Pattern

/-- A pattern is a query by a word of small letters, which stands before an equality sign. -/
structure IsQueryBy (word pattern : String) : Prop where
  ne_empty : word ≠ ""
  small : ∀ c ∈ word.toList, 'a' ≤ c ∧ c ≤ 'z'
  cut : ∃ value, pattern = word ++ "=" ++ value

/-- The words of the queries that are known. -/
def knownWords : List String := ["file", "pattern", retiredQuery]

/-- A pattern is a query of a kind that there is not. -/
def IsUnknownQuery (word pattern : String) : Prop :=
  IsQueryBy word pattern ∧ word ∉ knownWords

/-- The names of the standard library: its own name, and what goes on after it with a separator. -/
def NamesStandardLibrary (pattern : String) : Prop :=
  pattern = "std" ∨ ∃ separator ∈ ["/", ":", "@"], ∃ rest, pattern = "std" ++ separator ++ rest

/-- What a pattern asks for. -/
inductive Asks : String → Pattern → Prop
  | file (path : String) : Asks ("file=" ++ path) (.file path)
  | escaped (pattern : String) : Asks ("pattern=" ++ pattern) (.ordinary pattern)
  | retired (value : String) : Asks (retiredQuery ++ "=" ++ value) .nothing
  | standardLibrary {pattern : String} (hnames : NamesStandardLibrary pattern) :
    Asks pattern (.standardLibrary pattern)
  | plain {pattern : String} (hquery : ∀ word, ¬IsQueryBy word pattern)
    (hnames : ¬NamesStandardLibrary pattern) : Asks pattern (.ordinary pattern)

variable {word pattern query value : String} {p : Pattern}

/-! ### Names of the standard library -/

theorem isStandardLibrary_iff :
    isStandardLibrary pattern = true ↔ NamesStandardLibrary pattern := by
  rw [isStandardLibrary]
  constructor
  · intro h
    split at h
    · cases h
    · next hrest =>
      refine .inl (String.toList_inj.1 ?_)
      rw [Text.afterStart?_eq_some.1 hrest, List.append_nil]
      rfl
    · next c rest hrest =>
      have htext : pattern = "std" ++ String.singleton c ++ String.ofList rest := by
        refine String.toList_inj.1 ?_
        rw [Text.afterStart?_eq_some.1 hrest]
        simp [standardName]
      have hseparator : String.singleton c ∈ ["/", ":", "@"] := by
        simp only [Bool.or_eq_true, beq_iff_eq] at h
        rcases h with (rfl | rfl) | rfl <;> decide
      exact .inr ⟨_, hseparator, _, htext⟩
  · rintro (rfl | ⟨separator, hseparator, rest, rfl⟩)
    · decide
    · have hrest : Text.afterStart? standardName.toList ("std" ++ separator ++ rest).toList =
          some (separator.toList ++ rest.toList) := by
        refine Text.afterStart?_eq_some.2 ?_
        simp [standardName]
      rw [hrest]
      simp only [List.mem_cons, List.not_mem_nil, or_false] at hseparator
      rcases hseparator with rfl | rfl | rfl <;> rfl

/-- A name of the standard library is no query: its separator is no small letter and stands before
any equality sign. -/
theorem NamesStandardLibrary.not_isQueryBy (h : NamesStandardLibrary pattern) (word : String) :
    ¬IsQueryBy word pattern := by
  rintro ⟨-, hsmall, value, hcut⟩
  have hchars := congrArg String.toList hcut
  simp only [String.toList_append] at hchars
  rcases h with rfl | ⟨separator, hseparator, rest, rfl⟩
  · have hmark : '=' ∈ "std".toList := by
      rw [hchars]
      simp
    exact absurd hmark (by decide)
  · obtain ⟨c, hc, hmark, hlarge⟩ :
        ∃ c, separator.toList = [c] ∧ c ≠ '=' ∧ ¬('a' ≤ c ∧ c ≤ 'z') := by
      simp only [List.mem_cons, List.not_mem_nil, or_false] at hseparator
      rcases hseparator with rfl | rfl | rfl <;> exact ⟨_, rfl, by decide, by decide⟩
    rw [String.toList_append, String.toList_append, hc, List.append_assoc, List.append_assoc,
      List.append_eq_append_iff] at hchars
    rcases hchars with ⟨more, hword, hrest⟩ | ⟨more, hname, hrest⟩
    -- The word ends behind the name `std`, so that the separator would be one of its letters.
    · cases more with
      | nil => exact hmark (List.cons.inj hrest).1
      | cons d more =>
        obtain ⟨rfl, -⟩ := List.cons.inj hrest
        refine hlarge (hsmall c ?_)
        rw [hword]
        exact List.mem_append_right _ List.mem_cons_self
    -- The word ends in `std`, which has no equality sign.
    · cases more with
      | nil => exact hmark (List.cons.inj hrest).1.symm
      | cons d more =>
        obtain ⟨rfl, -⟩ := List.cons.inj hrest
        have hname' : '=' ∈ "std".toList := by
          rw [hname]
          exact List.mem_append_right _ List.mem_cons_self
        exact absurd hname' (by decide)

instance : DecidablePred NamesStandardLibrary := fun _ => decidable_of_iff _ isStandardLibrary_iff

/-! ### Queries -/

theorem isLower_iff {c : Char} : c.isLower = true ↔ 'a' ≤ c ∧ c ≤ 'z' := by
  change (decide (c.val ≥ 'a'.val) && decide (c.val ≤ 'z'.val)) = true ↔ _
  rw [Bool.and_eq_true, decide_eq_true_iff, decide_eq_true_iff]
  exact Iff.rfl

/-- **A query has its word before the first equality sign.** -/
theorem isQueryBy_iff : IsQueryBy word pattern ↔
    (!word.isEmpty && word.toList.all Char.isLower) = true ∧
      ∃ value, Environment.entry? pattern = some (word, value) := by
  have hword : (!word.isEmpty && word.toList.all Char.isLower) = true ↔
      word ≠ "" ∧ ∀ c ∈ word.toList, 'a' ≤ c ∧ c ≤ 'z' := by
    simp [isLower_iff]
  rw [hword]
  constructor
  · rintro ⟨hne, hsmall, value, rfl⟩
    have hmark : '=' ∉ word.toList := fun hmem => absurd (hsmall _ hmem).1 (by decide)
    exact ⟨⟨hne, hsmall⟩, value, Environment.entry?_eq_some_iff.2 ⟨rfl, hmark⟩⟩
  · rintro ⟨⟨hne, hsmall⟩, value, hentry⟩
    exact ⟨hne, hsmall, value, (Environment.entry?_eq_some_iff.1 hentry).1⟩

theorem parse_of_not_isQueryBy (h : ∀ word, ¬IsQueryBy word pattern) :
    parse pattern = .ok (plain pattern) := by
  rw [parse]
  split
  · rfl
  · next query value hentry =>
    have hsmall : ¬(!query.isEmpty && query.toList.all Char.isLower) = true := fun hsmall =>
      h query (isQueryBy_iff.2 ⟨hsmall, value, hentry⟩)
    have hknown : query ∉ knownWords := by
      intro hmem
      simp only [knownWords, List.mem_cons, List.not_mem_nil, or_false] at hmem
      rcases hmem with rfl | rfl | rfl <;> exact hsmall (by decide)
    simp only [knownWords, List.mem_cons, List.not_mem_nil, or_false, not_or] at hknown
    rw [if_neg hknown.1, if_neg hknown.2.1, if_neg hknown.2.2, if_neg hsmall]

theorem asks_plain (h : ∀ word, ¬IsQueryBy word pattern) : Asks pattern (plain pattern) := by
  rw [plain]
  split
  · next hnames => exact .standardLibrary (isStandardLibrary_iff.1 hnames)
  · next hnames => exact .plain h (mt isStandardLibrary_iff.2 hnames)

/-! ### What a pattern asks for -/

/-- **A pattern is read by what it asks for.** -/
theorem parse_eq_ok_iff : parse pattern = .ok p ↔ Asks pattern p := by
  constructor
  · intro h
    by_cases hquery : ∃ word, IsQueryBy word pattern
    · obtain ⟨word, hword⟩ := hquery
      obtain ⟨hsmall, value, hentry⟩ := isQueryBy_iff.1 hword
      obtain ⟨rfl, -⟩ := Environment.entry?_eq_some_iff.1 hentry
      rw [parse, hentry] at h
      simp only [if_pos hsmall] at h
      split_ifs at h with hfile hpattern hretired
      · cases h
        subst hfile
        exact .file value
      · cases h
        subst hpattern
        exact .escaped value
      · cases h
        subst hretired
        exact .retired value
    · rw [not_exists] at hquery
      cases (parse_of_not_isQueryBy hquery).symm.trans h
      exact asks_plain hquery
  · intro h
    cases h with
    | file path =>
      have hentry : Environment.entry? ("file=" ++ path) = some ("file", path) :=
        Environment.entry?_eq_some_iff.2 ⟨rfl, by decide⟩
      rw [parse, hentry]
      rfl
    | escaped pattern =>
      have hentry : Environment.entry? ("pattern=" ++ pattern) = some ("pattern", pattern) :=
        Environment.entry?_eq_some_iff.2 ⟨rfl, by decide⟩
      rw [parse, hentry]
      rfl
    | retired value =>
      have hentry : Environment.entry? (retiredQuery ++ "=" ++ value) =
          some (retiredQuery, value) :=
        Environment.entry?_eq_some_iff.2 ⟨rfl, by decide⟩
      rw [parse, hentry]
      rfl
    | standardLibrary hnames =>
      rw [parse_of_not_isQueryBy hnames.not_isQueryBy, plain,
        if_pos (isStandardLibrary_iff.2 hnames)]
    | plain hquery hnames =>
      rw [parse_of_not_isQueryBy hquery, plain, if_neg (mt isStandardLibrary_iff.1 hnames)]

/-- **A pattern fails by an unknown word.** -/
theorem parse_eq_error_iff {f : Failure} : parse pattern = .error f ↔
    ∃ word, IsUnknownQuery word pattern ∧ f = .of (.unknownQuery word pattern) := by
  constructor
  · intro h
    by_cases hquery : ∃ word, IsQueryBy word pattern
    · obtain ⟨word, hword⟩ := hquery
      obtain ⟨hsmall, value, hentry⟩ := isQueryBy_iff.1 hword
      rw [parse, hentry] at h
      simp only [if_pos hsmall] at h
      split_ifs at h with hfile hpattern hretired
      cases h
      exact ⟨word, ⟨hword, by simp [knownWords, hfile, hpattern, hretired]⟩, rfl⟩
    · rw [parse_of_not_isQueryBy (not_exists.1 hquery)] at h
      cases h
  · rintro ⟨word, ⟨hword, hknown⟩, rfl⟩
    obtain ⟨hsmall, value, hentry⟩ := isQueryBy_iff.1 hword
    simp only [knownWords, List.mem_cons, List.not_mem_nil, or_false, not_or] at hknown
    rw [parse, hentry]
    simp only
    rw [if_neg hknown.1, if_neg hknown.2.1, if_neg hknown.2.2, if_pos hsmall]

theorem exists_parse_iff :
    (∃ p, parse pattern = .ok p) ↔ ∀ word, ¬IsUnknownQuery word pattern := by
  constructor
  · rintro ⟨p, hp⟩ word hword
    cases hp.symm.trans (parse_eq_error_iff.2 ⟨word, hword, rfl⟩)
  · intro hknown
    refine Classical.not_not.1 fun hnone => ?_
    obtain ⟨f, hf⟩ := Result.not_ok_iff.1 hnone
    obtain ⟨word, hword, -⟩ := parse_eq_error_iff.1 hf
    exact hknown word hword

theorem Asks.unique {p' : Pattern} (h : Asks pattern p) (h' : Asks pattern p') : p = p' :=
  Except.ok.inj ((parse_eq_ok_iff.2 h).symm.trans (parse_eq_ok_iff.2 h'))

/-- A pattern asks for one thing, unless its word is unknown. -/
theorem existsUnique_asks_iff :
    (∃! p, Asks pattern p) ↔ ∀ word, ¬IsUnknownQuery word pattern := by
  rw [← exists_parse_iff]
  constructor
  · rintro ⟨p, hp, -⟩
    exact ⟨p, parse_eq_ok_iff.2 hp⟩
  · rintro ⟨p, hp⟩
    have hasks := parse_eq_ok_iff.1 hp
    exact ⟨p, hasks, fun p' hp' => hp'.unique hasks⟩

theorem asks_standardLibrary_iff {name : String} :
    Asks pattern (.standardLibrary name) ↔ pattern = name ∧ NamesStandardLibrary name := by
  constructor
  · intro h
    cases h with
    | standardLibrary hnames => exact ⟨rfl, hnames⟩
  · rintro ⟨rfl, hnames⟩
    exact .standardLibrary hnames

theorem asks_ordinary_iff : Asks pattern (.ordinary value) ↔ pattern = "pattern=" ++ value ∨
    pattern = value ∧ (∀ word, ¬IsQueryBy word value) ∧ ¬NamesStandardLibrary value := by
  constructor
  · intro h
    cases h with
    | escaped value => exact .inl rfl
    | plain hquery hnames => exact .inr ⟨rfl, hquery, hnames⟩
  · rintro (rfl | ⟨rfl, hquery, hnames⟩)
    · exact .escaped value
    · exact .plain hquery hnames

end Pattern

namespace Selection

open Pattern (parse IsUnknownQuery Asks)

/-- The selection with what one more pattern before the others asks for. -/
def add (s : Selection) : Pattern → Selection
  | .file path => { s with files := path :: s.files }
  | .ordinary pattern => { s with patterns := pattern :: s.patterns }
  | .standardLibrary pattern => { s with standardLibrary := pattern :: s.standardLibrary }
  | .nothing => s

/-- What some patterns select and then others. -/
def append (s s' : Selection) : Selection where
  files := s.files ++ s'.files
  patterns := s.patterns ++ s'.patterns
  standardLibrary := s.standardLibrary ++ s'.standardLibrary

/-- Each pattern adds to the selection what it asks for, in order, and nothing else is in it. -/
inductive Selects : List String → Selection → Prop
  | nil : Selects [] ⟨[], [], []⟩
  | cons {pattern : String} {patterns : List String} {p : Pattern} {s : Selection} :
    Asks pattern p → Selects patterns s → Selects (pattern :: patterns) (s.add p)

variable {patterns : List String} {s : Selection}

theorem ofParsed_cons (p : Pattern) (l : List Pattern) :
    ofParsed (p :: l) = (ofParsed l).add p := by
  cases p <;> rfl

theorem ofParsed_append (l l' : List Pattern) :
    ofParsed (l ++ l') = (ofParsed l).append (ofParsed l') := by
  simp only [ofParsed, append, List.filterMap_append]

theorem ofPatterns_cons (pattern : String) (patterns : List String) :
    ofPatterns (pattern :: patterns) = do
      let p ← parse pattern
      let s ← ofPatterns patterns
      return s.add p := by
  rw [ofPatterns, List.mapM_cons, ofPatterns]
  cases parse pattern with
  | error f => rfl
  | ok p =>
    cases patterns.mapM parse with
    | error f => rfl
    | ok l => exact congrArg Except.ok (ofParsed_cons p l)

/-- **What is selected** is what the patterns ask for. -/
theorem ofPatterns_eq_ok_iff : ofPatterns patterns = .ok s ↔ Selects patterns s := by
  induction patterns generalizing s with
  | nil =>
    constructor
    · intro h
      cases h
      exact .nil
    · intro h
      cases h
      rfl
  | cons pattern patterns ih =>
    rw [ofPatterns_cons]
    constructor
    · intro h
      obtain ⟨p, hp, h⟩ := bind_eq_ok.1 h
      obtain ⟨s', hs', h⟩ := bind_eq_ok.1 h
      cases h
      exact .cons (Pattern.parse_eq_ok_iff.1 hp) (ih.1 hs')
    · intro h
      cases h with
      | cons hp hs =>
        exact bind_eq_ok.2 ⟨_, Pattern.parse_eq_ok_iff.2 hp, bind_eq_ok.2 ⟨_, ih.2 hs, rfl⟩⟩

/-- **The first unknown word** fails the patterns, and its query is named. -/
theorem ofPatterns_eq_error_iff {f : Failure} : ofPatterns patterns = .error f ↔
    ∃ before pattern after word, patterns = before ++ pattern :: after ∧
      (∀ q ∈ before, ∀ w, ¬IsUnknownQuery w q) ∧ IsUnknownQuery word pattern ∧
      f = .of (.unknownQuery word pattern) := by
  have hmap : ofPatterns patterns = .error f ↔ patterns.mapM parse = .error f := by
    exact Result.map_eq_error_iff
  rw [hmap, Result.mapM_eq_error_iff]
  simp only [Pattern.exists_parse_iff, Pattern.parse_eq_error_iff]
  constructor
  · rintro ⟨before, pattern, after, hcut, hbefore, word, hword, hf⟩
    exact ⟨before, pattern, after, word, hcut, hbefore, hword, hf⟩
  · rintro ⟨before, pattern, after, word, hcut, hbefore, hword, hf⟩
    exact ⟨before, pattern, after, hcut, hbefore, word, hword, hf⟩

theorem exists_parse_of_mem (h : ofPatterns patterns = .ok s) {pattern : String}
    (hmem : pattern ∈ patterns) : ∃ p, parse pattern = .ok p := by
  obtain ⟨l, hl, -⟩ := Result.map_eq_ok.1 h
  exact Result.exists_mapM_eq_ok_iff.1 ⟨l, hl⟩ pattern hmem

/-- Patterns fail where one of them is a query by an unknown word. -/
theorem exists_ofPatterns_error_iff : (∃ f, ofPatterns patterns = .error f) ↔
    ∃ pattern ∈ patterns, ∃ word, IsUnknownQuery word pattern := by
  constructor
  · rintro ⟨f, hf⟩
    obtain ⟨before, pattern, after, word, rfl, -, hword, -⟩ := ofPatterns_eq_error_iff.1 hf
    exact ⟨pattern, List.mem_append_right _ List.mem_cons_self, word, hword⟩
  · rintro ⟨pattern, hmem, word, hword⟩
    refine Result.not_ok_iff.1 ?_
    rintro ⟨s, hs⟩
    exact Pattern.exists_parse_iff.1 (exists_parse_of_mem hs hmem) word hword

/-- **Rows of patterns** may be read one after the other. -/
theorem ofPatterns_append (patterns patterns' : List String) :
    ofPatterns (patterns ++ patterns') = do
      let s ← ofPatterns patterns
      let s' ← ofPatterns patterns'
      return s.append s' := by
  rw [ofPatterns, List.mapM_append, ofPatterns, ofPatterns]
  cases patterns.mapM parse with
  | error f => rfl
  | ok l =>
    cases patterns'.mapM parse with
    | error f => rfl
    | ok l' => exact congrArg Except.ok (ofParsed_append l l')

/-! ### What is selected -/

theorem mem_patterns_add {p : Pattern} {pattern : String} :
    pattern ∈ (s.add p).patterns ↔ p = .ordinary pattern ∨ pattern ∈ s.patterns := by
  cases p <;> simp [add, eq_comm]

theorem mem_standardLibrary_add {p : Pattern} {name : String} :
    name ∈ (s.add p).standardLibrary ↔ p = .standardLibrary name ∨ name ∈ s.standardLibrary := by
  cases p <;> simp [add, eq_comm]

theorem Selects.mem_patterns_iff (h : Selects patterns s) {value : String} :
    value ∈ s.patterns ↔ ∃ pattern ∈ patterns, Asks pattern (.ordinary value) := by
  induction h with
  | nil => simp
  | cons hasks _ ih =>
    rw [mem_patterns_add, ih, List.exists_mem_cons_iff]
    refine or_congr_left ⟨?_, hasks.unique⟩
    rintro rfl
    exact hasks

theorem Selects.mem_standardLibrary_iff (h : Selects patterns s) {name : String} :
    name ∈ s.standardLibrary ↔ name ∈ patterns ∧ Pattern.NamesStandardLibrary name := by
  induction h with
  | nil => simp
  | cons hasks _ ih =>
    rw [mem_standardLibrary_add, ih, List.mem_cons, or_and_right]
    refine or_congr_left ⟨?_, ?_⟩
    · rintro rfl
      obtain ⟨rfl, hnames⟩ := Pattern.asks_standardLibrary_iff.1 hasks
      exact ⟨rfl, hnames⟩
    · rintro ⟨rfl, hnames⟩
      exact hasks.unique (.standardLibrary hnames)

/-- **Patterns select what they ask for,** each one thing, in the order they are given in and row
after row. They fail only at a query by an unknown word, and by the first one. -/
theorem ofPatterns_selects :
    (∀ patterns f, ofPatterns patterns = .error f ↔
      ∃ before pattern after word, patterns = before ++ pattern :: after ∧
        (∀ q ∈ before, ∀ w, ¬IsUnknownQuery w q) ∧ IsUnknownQuery word pattern ∧
        f = .of (.unknownQuery word pattern)) ∧
    (∀ patterns, (∃ f, ofPatterns patterns = .error f) ↔
      ∃ pattern ∈ patterns, ∃ word, IsUnknownQuery word pattern) ∧
    (∀ pattern, (∃! p, Asks pattern p) ↔ ∀ word, ¬IsUnknownQuery word pattern) ∧
    (∀ patterns s, ofPatterns patterns = .ok s ↔ Selects patterns s) ∧
    (∀ patterns patterns', ofPatterns (patterns ++ patterns') = do
      let s ← ofPatterns patterns
      let s' ← ofPatterns patterns'
      return s.append s') :=
  ⟨fun _ _ => ofPatterns_eq_error_iff, fun _ => exists_ofPatterns_error_iff,
    fun _ => Pattern.existsUnique_asks_iff, fun _ _ => ofPatterns_eq_ok_iff, ofPatterns_append⟩

/-- An equality sign that stands behind anything but small letters belongs to the pattern. -/
example : ofPatterns ["=a", "std/x=y", "pattern=a=b", "./d=e", "file=f=g"] =
    .ok ⟨["f=g"], ["=a", "a=b", "./d=e"], ["std/x=y"]⟩ := by rfl

end Selection
end PackageListing
