/-
# Spellings of a line

A line may spell its known flags with one dash or with two. Word by word the line is kept or gets a
dash (`Spells`, `forall₂_spells_normalize`), up to the first separator, from where on nothing is
looked at (`normalize_append_separator`). A word that was spelt stays (`spelt_spelt`), so a line
that was normalized stays too (`normalize_normalize`).

Two words are spelt alike just where they are equal or the same flag with other dashes
(`spelt_eq_spelt_iff`), and none but the separator becomes one (`spelt_eq_separator_iff`). Hence two
lines are normalized to the same one just where they differ in such dashes alone
(`normalize_eq_iff`). The main statement is `normalize_spells`.
-/

import Mathlib.Data.List.Forall2
import PackageListing.Proofs.CommandLine.Words

namespace PackageListing
namespace CommandLine

/-- What becomes of a word before the separator. -/
inductive Spells (known : List String) (word : String) : String → Prop
  | dashed (h : IsShort known word) : Spells known word ("-" ++ word)
  | kept (h : ¬IsShort known word) : Spells known word word

/-- Two lines that differ in nothing but the dashes of known flags before their first separator. -/
inductive SameButDashes (known : List String) : List String → List String → Prop
  | nil : SameButDashes known [] []
  | separator (rest : List String) :
    SameButDashes known (separator :: rest) (separator :: rest)
  | word {words others : List String} (word : String) (hword : word ≠ separator)
    (h : SameButDashes known words others) : SameButDashes known (word :: words) (word :: others)
  | flag {name rest : String} {words others : List String} (hname : name ∈ known)
    (hrest : IsEnding rest) (dashes dashes' : Dashes) (h : SameButDashes known words others) :
    SameButDashes known ((dashes.text ++ (name ++ rest)) :: words)
      ((dashes'.text ++ (name ++ rest)) :: others)

variable {known : List String} {word other : String} {words others : List String}

/-! ### Before the separator and after it -/

theorem normalize_cons (h : word ≠ separator) (words : List String) :
    normalize known (word :: words) = spelt known word :: normalize known words :=
  if_neg h

theorem normalize_of_not_mem (h : separator ∉ words) :
    normalize known words = words.map (spelt known) := by
  induction words with
  | nil => rfl
  | cons word words ih =>
    obtain ⟨hword, hwords⟩ := not_or.1 (mt List.mem_cons.2 h)
    rw [normalize_cons (Ne.symm hword), ih hwords, List.map_cons]

/-- **From a separator on** a line is kept. -/
theorem normalize_append_separator (front rest : List String) :
    normalize known (front ++ separator :: rest) = normalize known front ++ separator :: rest := by
  by_cases h : separator ∈ front
  -- An earlier separator keeps what comes after it, the later one included.
  · obtain ⟨before, after, rfl, hbefore⟩ := List.eq_append_cons_of_mem h
    rw [List.append_assoc, List.cons_append, normalize_append hbefore, normalize_append hbefore,
      List.append_assoc, List.cons_append]
  · rw [normalize_append h, normalize_of_not_mem h]

theorem length_normalize (known words : List String) :
    (normalize known words).length = words.length := by
  fun_induction normalize known words with
  | case1 => rfl
  | case2 => rfl
  | case3 word words _ ih => rw [List.length_cons, List.length_cons, ih]

section

variable (hknown : ∀ name ∈ known, IsFlagName name)

include hknown

/-! ### Word by word -/

theorem spells_spelt (word : String) : Spells known word (spelt known word) := by
  by_cases h : IsShort known word
  · rw [spelt_of_isShort hknown h]
    exact .dashed h
  · rw [spelt_of_not_isShort h]
    exact .kept h

/-- **Each word is kept or gets a dash,** in its place. -/
theorem forall₂_spells_normalize (h : separator ∉ words) :
    List.Forall₂ (Spells known) words (normalize known words) := by
  rw [normalize_of_not_mem h, List.forall₂_map_right_iff, List.forall₂_same]
  exact fun word _ => spells_spelt hknown word

theorem spelt_spelt (word : String) : spelt known (spelt known word) = spelt known word := by
  by_cases h : IsShort known word
  · obtain ⟨name, hname, rest, hrest, rfl⟩ := h
    have hone := spelt_dashed hknown hname hrest .one
    have htwo := spelt_dashed hknown hname hrest .two
    exact (congrArg (spelt known) hone).trans (htwo.trans hone.symm)
  · rw [spelt_of_not_isShort h, spelt_of_not_isShort h]

theorem spelt_eq_separator_iff : spelt known word = separator ↔ word = separator := by
  constructor
  · intro heq
    by_cases h : IsShort known word
    · obtain ⟨name, hname, rest, hrest, rfl⟩ := h
      rw [show "-" ++ (name ++ rest) = Dashes.one.text ++ (name ++ rest) from rfl,
        spelt_dashed hknown hname hrest] at heq
      exact absurd heq ((hknown name hname).dashed_ne_separator .two rest)
    · rwa [spelt_of_not_isShort h] at heq
  · rintro rfl
    refine spelt_of_not_isShort ?_
    rintro ⟨name, hname, rest, -, heq⟩
    exact (hknown name hname).dashed_ne_separator .one rest heq.symm

theorem normalize_eq_cons (word : String) (words : List String) :
    normalize known (word :: words) =
      spelt known word :: if word = separator then words else normalize known words := by
  by_cases h : word = separator
  · rw [if_pos h, (spelt_eq_separator_iff hknown).2 h, ← h]
    exact if_pos h
  · rw [if_neg h, normalize_cons h]

/-- **Words are spelt alike** just where they are equal or the same flag with other dashes. -/
theorem spelt_eq_spelt_iff :
    spelt known word = spelt known other ↔ word = other ∨
      ∃ name ∈ known, ∃ rest, IsEnding rest ∧ ∃ dashes dashes' : Dashes,
        word = dashes.text ++ (name ++ rest) ∧ other = dashes'.text ++ (name ++ rest) := by
  constructor
  · intro heq
    by_cases hword : IsShort known word
    · by_cases hother : IsShort known other
      · rw [spelt_of_isShort hknown hword, spelt_of_isShort hknown hother] at heq
        exact .inl (String.append_right_inj _ |>.1 heq)
      · obtain ⟨name, hname, rest, hrest, rfl⟩ := hword
        rw [spelt_of_not_isShort hother] at heq
        exact .inr ⟨name, hname, rest, hrest, .one, .two, rfl,
          heq.symm.trans (spelt_dashed hknown hname hrest .one)⟩
    · by_cases hother : IsShort known other
      · obtain ⟨name, hname, rest, hrest, rfl⟩ := hother
        rw [spelt_of_not_isShort hword] at heq
        exact .inr ⟨name, hname, rest, hrest, .two, .one,
          heq.trans (spelt_dashed hknown hname hrest .one), rfl⟩
      · rw [spelt_of_not_isShort hword, spelt_of_not_isShort hother] at heq
        exact .inl heq
  · rintro (rfl | ⟨name, hname, rest, hrest, dashes, dashes', rfl, rfl⟩)
    · rfl
    · rw [spelt_dashed hknown hname hrest, spelt_dashed hknown hname hrest]

/-! ### Lines -/

/-- **A normalized line stays.** -/
theorem normalize_normalize (words : List String) :
    normalize known (normalize known words) = normalize known words := by
  fun_induction normalize known words with
  | case1 => rfl
  | case2 words => exact if_pos rfl
  | case3 word words hword ih =>
    rw [normalize_cons (mt (spelt_eq_separator_iff hknown).1 hword), spelt_spelt hknown, ih]

theorem SameButDashes.normalize_eq (h : SameButDashes known words others) :
    normalize known words = normalize known others := by
  induction h with
  | nil => rfl
  | separator => rfl
  | word word hword _ ih => rw [normalize_cons hword, normalize_cons hword, ih]
  | @flag name rest _ _ hname hrest dashes dashes' _ ih =>
    have hflag := (hknown name hname).dashed_ne_separator
    rw [normalize_cons (hflag dashes rest), normalize_cons (hflag dashes' rest), ih,
      spelt_dashed hknown hname hrest, spelt_dashed hknown hname hrest]

/-- **Lines are normalized alike** just where they differ in the dashes of known flags alone. -/
theorem normalize_eq_iff :
    normalize known words = normalize known others ↔ SameButDashes known words others := by
  refine ⟨fun heq => ?_, fun h => h.normalize_eq hknown⟩
  induction words generalizing others with
  | nil =>
    have hlength := congrArg List.length heq
    rw [length_normalize, length_normalize] at hlength
    rw [List.length_eq_zero_iff.1 hlength.symm]
    exact .nil
  | cons word words ih =>
    cases others with
    | nil =>
      have hlength := congrArg List.length heq
      rw [length_normalize, length_normalize] at hlength
      cases hlength
    | cons other others =>
      rw [normalize_eq_cons hknown, normalize_eq_cons hknown] at heq
      obtain ⟨hhead, htail⟩ := List.cons.inj heq
      -- No word becomes the separator, so the lines come to their first one at the same place.
      have hseparator : word = separator ↔ other = separator := by
        rw [← spelt_eq_separator_iff hknown, hhead, spelt_eq_separator_iff hknown]
      by_cases hword : word = separator
      · rw [if_pos hword, if_pos (hseparator.1 hword)] at htail
        rw [hword, hseparator.1 hword, htail]
        exact .separator others
      · rw [if_neg hword, if_neg (mt hseparator.2 hword)] at htail
        rcases (spelt_eq_spelt_iff hknown).1 hhead with
          rfl | ⟨name, hname, rest, hrest, dashes, dashes', rfl, rfl⟩
        · exact .word word hword (ih htail)
        · exact .flag hname hrest dashes dashes' (ih htail)

/-- **A line is spelt word by word, and all its spellings come out alike.** Its words stay in their
places, and from a separator on they stay as they are. Before it the known flags with one dash get
another one and all other words stay. To do so again changes nothing, and two lines come out as the
same one just where they differ in nothing but the dashes of known flags before the separator. -/
theorem normalize_spells :
    (∀ words : List String, (normalize known words).length = words.length) ∧
    (∀ front rest : List String,
      normalize known (front ++ separator :: rest) = normalize known front ++ separator :: rest) ∧
    (∀ words : List String, separator ∉ words →
      List.Forall₂ (Spells known) words (normalize known words)) ∧
    (∀ words : List String, normalize known (normalize known words) = normalize known words) ∧
    ∀ words others : List String,
      normalize known words = normalize known others ↔ SameButDashes known words others :=
  ⟨length_normalize known, normalize_append_separator,
    fun _ h => forall₂_spells_normalize hknown h, normalize_normalize hknown,
    fun _ _ => normalize_eq_iff hknown⟩

end

/-- Two lines with flags that have values, a dash alone and a flag after the separator. -/
theorem normalize_spells_list :
    (∀ name ∈ ["deps", "tags"], IsFlagName name) ∧
    normalize ["deps", "tags"] ["list", "-deps", "--tags=a=b", "-", "--", "-deps"] =
      normalize ["deps", "tags"] ["list", "--deps", "-tags=a=b", "-", "--", "-deps"] := by
  have hknown : ∀ name ∈ ["deps", "tags"], IsFlagName name := by decide
  have hdeps : "deps" ∈ ["deps", "tags"] := by decide
  have htags : "tags" ∈ ["deps", "tags"] := by decide
  have hplain : IsEnding "" := .inl rfl
  have hvalue : IsEnding "=a=b" := .inr ⟨"a=b", rfl⟩
  refine ⟨hknown, ((normalize_spells hknown).2.2.2.2 _ _).2 (.word "list" (by decide) ?_)⟩
  refine .flag hdeps hplain .one .two (.flag htags hvalue .two .one ?_)
  exact .word "-" (by decide) (.separator ["-deps"])

end CommandLine
end PackageListing
