/-
# Lines of alternatives in the comments of a source

A line holds alternatives where it begins outside block comments and is the directive `+build`
(`Line.alternatives?_eq_some_iff`). The ones that count stand above the last blank line of the
comments that a source begins with (`alternativeLines`).

The header has them from two passes. The first counts the lines above the last bare one
(`snd_eq_of_lead`), and a line is bare, too, where it shows nothing but the end of a block comment:
what stands between the last blank line and such a line comes along as a stray
(`alternatives_eq_append_strays`). The second collects the alternatives in that many lines
(`alternativesIn_take`), but does not see a comment that is opened where another one ends
(`Line.isReopening`). Where none is, and no comments crowd on a line, the header has the lines that
count just if there are no strays (`readsAlternatives_iff`).
-/

import PackageListing.Proofs.Constraint.Header
import Mathlib.Data.List.DropRight

namespace PackageListing
namespace Constraint
namespace Header

namespace Line

/-- The alternatives in a line. White space may stand before the directive. -/
def alternatives? (l : Line) : Option (List Char) :=
  if l.inBlock then none
  else (Text.afterStart? lineMark (Text.trim l.text)).bind fun s =>
    argument? "+build".toList (Text.trimStart s)

/-- **A line holds alternatives** where it begins outside block comments and its trimmed text is
the mark of a comment, white space, and the directive with its end, a blank or a tab after it. -/
theorem alternatives?_eq_some_iff {l : Line} {argument : List Char} :
    l.alternatives? = some argument ↔ l.inBlock = false ∧
      ∃ space rest, Text.trim l.text = lineMark ++ (space ++ ("+build".toList ++ rest)) ∧
        (∀ c ∈ space, Text.isBlank c = true) ∧ (∀ c ∈ rest.head?, c = ' ' ∨ c = '\t') ∧
        argument = Text.trim rest := by
  rw [alternatives?]
  split
  · next h => simp [h]
  · next h =>
    rw [Option.bind_eq_some_iff]
    constructor
    · rintro ⟨s, hs, hargument⟩
      obtain ⟨rest, hstart, hrest, heq⟩ := argument?_eq_some_iff.1 hargument
      obtain ⟨space, hspace, hblank⟩ := Text.exists_trimStart s
      refine ⟨Bool.eq_false_iff.2 h, space, rest, ?_, hblank, hrest, heq⟩
      rw [Text.afterStart?_eq_some.1 hs, ← hstart, ← hspace]
    · rintro ⟨-, space, rest, htext, hblank, hrest, heq⟩
      refine ⟨_, Text.afterStart?_eq_some.2 htext, argument?_eq_some_iff.2 ⟨rest, ?_, hrest, heq⟩⟩
      exact Text.trimStart_append hblank

/-- Whether the line ends the comment that it begins in, and leaves another one open. -/
def isReopening (l : Line) : Bool :=
  l.inBlock && l.outside?.isSome && l.openAfter? == some true

end Line

/-! ### The second pass -/

theorem alternativesIn_inBlock {text : List Char} {inBlock' : Bool}
    (h : Line.openAfter? ⟨true, text⟩ = some inBlock')
    (hreopening : Line.isReopening ⟨true, text⟩ = false) (rest : List (List Char)) :
    alternativesIn true (text :: rest) = alternativesIn inBlock' rest := by
  have hstate : (Text.cutAt blockEnd (Text.trim text)).isNone = inBlock' := by
    cases hcut : Text.cutAt blockEnd (Text.trim text) with
    | none =>
      have houtside : Line.outside? ⟨true, text⟩ = none := by
        rw [Line.outside?, if_pos rfl, hcut]
        rfl
      rw [Line.openAfter?_eq_true houtside] at h
      exact Option.some.inj h
    | some p =>
      rw [Line.isReopening, Line.outside?, if_pos rfl, hcut, h] at hreopening
      cases inBlock' with
      | false => rfl
      | true => cases hreopening
  rw [alternativesIn, ← hstate]
  rfl

theorem alternativesIn_outside {text : List Char} {inBlock' : Bool}
    (h : Line.openAfter? ⟨false, text⟩ = some inBlock')
    (hcrowded : Line.isCrowded ⟨false, text⟩ = false) (rest : List (List Char)) :
    alternativesIn false (text :: rest) =
      (Line.alternatives? ⟨false, text⟩).toList ++ alternativesIn inBlock' rest := by
  have hs : Line.outside? ⟨false, text⟩ = some (Text.trim text) := rfl
  have hshows := shows (Line.not_isBlank_of_outside? hs)
  rw [← Line.openAfter?_eq_of_outside? hs] at hshows
  rw [alternativesIn, Line.alternatives?]
  simp only [Bool.false_eq_true, if_false]
  generalize Text.trim text = s, sight (Text.trim text) = v,
    hopen : Line.openAfter? ⟨false, text⟩ = o at hshows h hs
  cases hshows with
  | blank =>
    cases h
    rfl
  | comment t =>
    cases h
    have hline : Text.afterStart? lineMark (lineMark ++ t) = some t := afterStart?_append
    have hblock : Text.afterStart? blockMark (lineMark ++ t) = none := rfl
    simp only [hline, hblock, Option.bind_some]
    cases argument? "+build".toList (Text.trimStart t) <;> rfl
  | @opened inside hcut =>
    cases h
    have hline : Text.afterStart? lineMark (blockMark ++ inside) = none := rfl
    have hblock : Text.afterStart? blockMark (blockMark ++ inside) = some inside :=
      afterStart?_append
    simp only [hline, hblock, hcut]
    rfl
  | @block inside _ _ hcut hrest =>
    cases h
    have hline : Text.afterStart? lineMark (blockMark ++ inside) = none := rfl
    have hblock : Text.afterStart? blockMark (blockMark ++ inside) = some inside :=
      afterStart?_append
    simp only [hline, hblock, hcut]
    rfl
  | crowded hcut hrest =>
    have hsome : (Line.openAfter? ⟨false, text⟩).isSome = true := by rw [hopen, h]; rfl
    rw [Line.isCrowded_of_cutAt_eq_some hsome hs hcut hrest] at hcrowded
    cases hcrowded
  | code => cases h

/-- The pass goes from a line to the next as the characters do, unless comments crowd on the line
or one is opened where another ends. -/
theorem alternativesIn_next {l : Line} {inBlock' : Bool} (h : l.openAfter? = some inBlock')
    (hcrowded : l.isCrowded = false) (hreopening : l.isReopening = false)
    (rest : List (List Char)) :
    alternativesIn l.inBlock (l.text :: rest) =
      l.alternatives?.toList ++ alternativesIn inBlock' rest := by
  obtain ⟨inBlock, text⟩ := l
  cases inBlock with
  | true => exact alternativesIn_inBlock h hreopening rest
  | false => exact alternativesIn_outside h hcrowded rest

/-- **The pass finds the alternatives in lines of the header,** as many as it goes through. -/
theorem alternativesIn_take {inBlock : Bool} {lines : List (List Char)}
    (hcrowded : ∀ l ∈ leading inBlock lines, l.isCrowded = false)
    (hreopening : ∀ l ∈ leading inBlock lines, l.isReopening = false) {k : Nat}
    (hk : k ≤ (leading inBlock lines).length) :
    alternativesIn inBlock (lines.take k) =
      ((leading inBlock lines).take k).filterMap Line.alternatives? := by
  induction k generalizing inBlock lines with
  | zero => rfl
  | succ k ih =>
    cases lines with
    | nil => exact absurd hk (Nat.not_succ_le_zero k)
    | cons text rest =>
      cases hopen : openAfter? inBlock text with
      | none =>
        rw [leading_cons_of_none hopen] at hk
        exact absurd hk (Nat.not_succ_le_zero k)
      | some inBlock' =>
        rw [leading_cons_of_some hopen] at hcrowded hreopening hk ⊢
        obtain ⟨hl, hrest⟩ := List.forall_mem_cons.1 hcrowded
        obtain ⟨hl', hrest'⟩ := List.forall_mem_cons.1 hreopening
        rw [List.take_succ_cons, List.take_succ_cons,
          alternativesIn_next (l := ⟨inBlock, text⟩) hopen hl hl',
          ih hrest hrest' (Nat.le_of_succ_le_succ hk), List.filterMap_cons]
        cases Line.alternatives? ⟨inBlock, text⟩ <;> rfl

/-! ### The last line of a kind -/

/-- The lines above the last one that `p` holds of. -/
def aboveLast (p : Line → Bool) (ls : List Line) : List Line :=
  (ls.rdropWhile fun l => !p l).dropLast

theorem aboveLast_concat (p : Line → Bool) (ls : List Line) (l : Line) :
    aboveLast p (ls ++ [l]) = if p l then ls else aboveLast p ls := by
  rw [aboveLast, List.rdropWhile_concat]
  cases p l with
  | true => exact List.dropLast_concat
  | false => rfl

theorem aboveLast_isPrefix (p : Line → Bool) (ls : List Line) : aboveLast p ls <+: ls :=
  (List.dropLast_prefix _).trans (List.rdropWhile_prefix _ _)

/-- **The pass counts the lines above the last bare line of the header.** -/
theorem snd_eq_of_lead (before : List Line) {inBlock : Bool} {lines : List (List Char)}
    (hcrowded : ∀ l ∈ leading inBlock lines, l.isCrowded = false) {lastBlank k : Nat}
    {found found' : Option (List Char)} (hlast : lastBlank = (aboveLast Line.isBare before).length)
    (h : lead before.length inBlock found lastBlank lines = some (found', k)) :
    k = (aboveLast Line.isBare (before ++ leading inBlock lines)).length := by
  induction lines generalizing before inBlock found lastBlank with
  | nil =>
    cases h
    rw [leading, List.append_nil, hlast]
  | cons text rest ih =>
    cases hopen : openAfter? inBlock text with
    | none =>
      rw [lead_stop (l := ⟨inBlock, text⟩) hopen] at h
      cases h
      rw [leading_cons_of_none hopen, List.append_nil, hlast]
    | some inBlock' =>
      rw [leading_cons_of_some hopen] at hcrowded ⊢
      obtain ⟨hl, hrest⟩ := List.forall_mem_cons.1 hcrowded
      rw [lead_next (l := ⟨inBlock, text⟩) hopen hl] at h
      rw [List.append_cons]
      have hlen : (before ++ [Line.mk inBlock text]).length = before.length + 1 := by simp
      have habove := aboveLast_concat Line.isBare before ⟨inBlock, text⟩
      rw [← hlen] at h
      split at h
      · next hbare => exact ih _ hrest (by rw [habove, if_pos hbare]) h
      · next hbare =>
        rw [if_neg hbare] at habove
        split at h
        · exact ih _ hrest (by rw [habove, hlast]) h
        · split at h
          · cases h
          · exact ih _ hrest (by rw [habove, hlast]) h

/-! ### The alternatives of a source -/

/-- The lines of alternatives that count: above the last blank line of the comments that the source
begins with. -/
def alternativeLines (source : List Char) : List (List Char) :=
  (aboveLast Line.isBlank (comments source)).filterMap Line.alternatives?

/-- The lines below the last blank line. -/
def belowLastBlank (ls : List Line) : List Line :=
  ls.rtakeWhile fun l => !l.isBlank

/-- The lines of alternatives below the last blank line, but above a line there that shows nothing
but the end of a block comment. -/
def strays (source : List Char) : List (List Char) :=
  (aboveLast Line.isBare (belowLastBlank (comments source))).filterMap Line.alternatives?

/-- The header has the lines of alternatives that count, in their order. -/
def ReadsAlternatives (source : List Char) : Prop :=
  ∀ h, ofSource? source = some h → h.alternatives = (alternativeLines source).map String.ofList

theorem Line.isBare_of_isBlank {l : Line} (h : l.isBlank = true) : l.isBare = true := by
  obtain ⟨inBlock, text⟩ := l
  rw [isBlank, Bool.and_eq_true, Bool.not_eq_true'] at h
  obtain ⟨rfl, htext⟩ := h
  have htrim : Text.trim text = [] := Text.trim_eq_nil_iff.2 (List.all_eq_true.1 htext)
  rw [isBare, outside?, htrim]
  rfl

theorem Line.alternatives?_of_isBlank {l : Line} (h : l.isBlank = true) :
    l.alternatives? = none := by
  obtain ⟨inBlock, text⟩ := l
  rw [isBlank, Bool.and_eq_true, Bool.not_eq_true'] at h
  obtain ⟨rfl, htext⟩ := h
  have htrim : Text.trim text = [] := Text.trim_eq_nil_iff.2 (List.all_eq_true.1 htext)
  rw [alternatives?, htrim]
  rfl

theorem belowLastBlank_concat (ls : List Line) (l : Line) :
    belowLastBlank (ls ++ [l]) = if l.isBlank then [] else belowLastBlank ls ++ [l] := by
  rw [belowLastBlank, List.rtakeWhile_concat]
  cases l.isBlank <;> rfl

/-- A blank line holds no alternatives, so those in some lines are above the last one or below. -/
theorem filterMap_alternatives? (ls : List Line) :
    ls.filterMap Line.alternatives? =
      (aboveLast Line.isBlank ls).filterMap Line.alternatives? ++
        (belowLastBlank ls).filterMap Line.alternatives? := by
  induction ls using List.reverseRecOn with
  | nil => rfl
  | append_singleton ls l ih =>
    rw [aboveLast_concat, belowLastBlank_concat, List.filterMap_append]
    cases hblank : l.isBlank with
    | true => simp [l.alternatives?_of_isBlank hblank]
    | false => simp [ih]

/-- Above the last bare line stand the lines of alternatives that count, and then strays. -/
theorem filterMap_aboveLast_isBare (ls : List Line) :
    (aboveLast Line.isBare ls).filterMap Line.alternatives? =
      (aboveLast Line.isBlank ls).filterMap Line.alternatives? ++
        (aboveLast Line.isBare (belowLastBlank ls)).filterMap Line.alternatives? := by
  induction ls using List.reverseRecOn with
  | nil => rfl
  | append_singleton ls l ih =>
    rw [aboveLast_concat, aboveLast_concat, belowLastBlank_concat]
    cases hblank : l.isBlank with
    | true =>
      rw [if_pos (l.isBare_of_isBlank hblank)]
      exact (List.append_nil _).symm
    | false =>
      simp only [Bool.false_eq_true, if_false]
      rw [aboveLast_concat]
      cases l.isBare with
      | true => exact filterMap_alternatives? ls
      | false => exact ih

theorem alternatives_eq_append_strays {source : List Char} {h : Header}
    (hcrowded : ∀ l ∈ comments source, l.isCrowded = false)
    (hreopening : ∀ l ∈ comments source, l.isReopening = false)
    (hread : ofSource? source = some h) :
    h.alternatives = (alternativeLines source ++ strays source).map String.ofList := by
  obtain ⟨⟨found, k⟩, hlead, rfl⟩ := Option.map_eq_some_iff.1 hread
  have hk : k = (aboveLast Line.isBare (comments source)).length :=
    snd_eq_of_lead [] hcrowded rfl hlead
  have htake : (comments source).take k = aboveLast Line.isBare (comments source) := by
    rw [hk, ← List.prefix_iff_eq_take.1 (aboveLast_isPrefix _ _)]
  have hle : k ≤ (comments source).length := by
    rw [hk]
    exact (aboveLast_isPrefix _ _).length_le
  rw [alternativeLines, strays, ← filterMap_aboveLast_isBare, ← htake]
  exact congrArg _ (alternativesIn_take hcrowded hreopening hle)

/-- **The lines of alternatives of a source** are the ones above the last blank line of the
comments that it begins with. This is so where no comments crowd on a line and none is opened where
another ends, just if there are no strays: no lines of alternatives between the last blank line and
the end of a comment that is taken for one. -/
theorem readsAlternatives_iff {source : List Char}
    (hcrowded : ∀ l ∈ comments source, l.isCrowded = false)
    (hreopening : ∀ l ∈ comments source, l.isReopening = false) :
    ReadsAlternatives source ↔ ofSource? source = none ∨ strays source = [] := by
  have hread := fun h => alternatives_eq_append_strays (h := h) hcrowded hreopening
  constructor
  · intro hreads
    cases hsource : ofSource? source with
    | none => exact .inl rfl
    | some h =>
      have heq := (hread h hsource).symm.trans (hreads h hsource)
      rw [List.map_append] at heq
      exact .inr (List.map_eq_nil_iff.1 (List.append_right_eq_self.1 heq))
  · rintro (hnone | hstrays) h hsource
    · rw [hnone] at hsource
      cases hsource
    · rw [hread h hsource, hstrays, List.append_nil]

/-- Alternatives above a comment, after which no blank line comes. -/
def unspacedSource : List Char :=
  "// +build ignore\n/* a\n*/\npackage p\n".toList

/-- Alternatives in a comment that is opened where another ends. -/
def reopeningSource : List Char :=
  "/* a\n*/ /* b\n// +build ignore\n*/\n\npackage p\n".toList

/-- Alternatives above comments that crowd on a line. -/
def crowdedAlternatives : List Char :=
  "// +build ignore\n/* a */ // b\n\npackage p\n".toList

theorem not_readsAlternatives_of_ne {source : List Char} {h : Header}
    (hsource : ofSource? source = some h)
    (hne : h.alternatives ≠ (alternativeLines source).map String.ofList) :
    ¬ReadsAlternatives source :=
  fun hreads => hne (hreads h hsource)

/-- The end of a comment is taken for a blank line, a line inside a comment for one outside, and
comments that crowd on a line for text. -/
theorem not_readsAlternatives :
    ¬ReadsAlternatives unspacedSource ∧ ¬ReadsAlternatives reopeningSource ∧
      ¬ReadsAlternatives crowdedAlternatives :=
  ⟨not_readsAlternatives_of_ne (h := ⟨none, ["ignore"]⟩) (by decide +kernel) (by decide +kernel),
    not_readsAlternatives_of_ne (h := ⟨none, ["ignore"]⟩) (by decide +kernel) (by decide +kernel),
    not_readsAlternatives_of_ne (h := ⟨none, []⟩) (by decide +kernel) (by decide +kernel)⟩

/-- Alternatives above and below the last blank line, and in a block comment. -/
def spacedSource : List Char :=
  "/* a\n// +build windows\n*/\n//  +build linux\n\n// +build plan9\npackage p\n".toList

theorem alternatives_spaced :
    ReadsAlternatives spacedSource ∧ alternativeLines spacedSource = ["linux".toList] :=
  ⟨(readsAlternatives_iff (by decide +kernel) (by decide +kernel)).2 (.inr (by decide +kernel)),
    by decide +kernel⟩

end Header
end Constraint
end PackageListing
