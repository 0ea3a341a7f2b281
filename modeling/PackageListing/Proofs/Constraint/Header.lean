/-
# Constraint expressions in the comments of a source

The header that is read off a source, against its comments character by character. A line holds a
constraint expression where it begins outside block comments and is the directive `go:build`
(`Line.expression?_eq_some_iff`). What the pass over the header sees in a line is what its
characters are (`shows`), with one exception: where a block comment begins and ends on a line and
another comment follows it there (`Line.isCrowded`), the header is taken to end. And a directive
counts, too, where it follows the end of a block comment that began on an earlier line, unless the
line is silent there (`Line.isSilent`). Where neither happens the expressions are the ones in the
lines before the first text (`map_fst_lead`): none, one, or too many (`expression_ofSource?`).
-/

import PackageListing.Proofs.Constraint.Comments
import Mathlib.Data.List.Basic

namespace PackageListing
namespace Constraint
namespace Header

/-! ### Directives -/

theorem argument?_eq_some_iff {name s argument : List Char} :
    argument? name s = some argument ↔
      ∃ rest, s = name ++ rest ∧ (∀ c ∈ rest.head?, c = ' ' ∨ c = '\t') ∧
        argument = Text.trim rest := by
  rw [argument?]
  constructor
  · intro h
    split at h
    · next hs =>
      cases h
      exact ⟨[], Text.afterStart?_eq_some.1 hs, fun c hc => (nomatch hc), rfl⟩
    · next c rest hs =>
      split at h
      · next hc =>
        cases h
        refine ⟨c :: rest, Text.afterStart?_eq_some.1 hs, ?_, rfl⟩
        rintro d ⟨⟩
        simpa only [Bool.or_eq_true, beq_iff_eq] using hc
      · cases h
    · cases h
  · rintro ⟨rest, hs, hrest, rfl⟩
    rw [Text.afterStart?_eq_some.2 hs]
    cases rest with
    | nil => rfl
    | cons c rest =>
      have hc : (c == ' ' || c == '\t') = true := by
        simpa only [Bool.or_eq_true, beq_iff_eq] using hrest c rfl
      exact if_pos hc

/-- The directive of a constraint expression, with the mark of its comment. -/
def expressionMark : List Char :=
  "//go:build".toList

namespace Line

/-- The constraint expression in a line. -/
def expression? (l : Line) : Option (List Char) :=
  if l.inBlock then none else argument? expressionMark (Text.trim l.text)

/-- **A line holds an expression** where it begins outside block comments and its trimmed text is
the directive and then its end, a blank or a tab. -/
theorem expression?_eq_some_iff {l : Line} {argument : List Char} :
    l.expression? = some argument ↔ l.inBlock = false ∧
      ∃ rest, Text.trim l.text = expressionMark ++ rest ∧
        (∀ c ∈ rest.head?, c = ' ' ∨ c = '\t') ∧ argument = Text.trim rest := by
  rw [expression?]
  split
  · next h => simp [h]
  · next h => simp [h, argument?_eq_some_iff]

/-- The constraint expression in what stands outside the block comment that the line begins in. -/
def mention? (l : Line) : Option (List Char) :=
  l.outside?.bind (argument? expressionMark)

/-- Nothing but white space stands outside the block comment that the line begins in. -/
def isBare (l : Line) : Bool :=
  l.outside? == some []

/-- What follows on the line after a block comment that begins and ends on it. -/
def behindBlock? (l : Line) : Option (List Char) := do
  let s ← l.outside?
  let inside ← Text.afterStart? blockMark s
  let p ← Text.cutAt blockEnd inside
  return p.2

/-- Whether a comment follows on the line after a block comment that begins and ends on it. -/
def isCrowded (l : Line) : Bool :=
  l.openAfter?.isSome && l.behindBlock?.any fun rest => !(Text.trim rest).isEmpty

theorem isCrowded_of_cutAt_eq_some {l : Line} {inside before rest : List Char}
    (hopen : l.openAfter?.isSome = true) (h : l.outside? = some (blockMark ++ inside))
    (hcut : Text.cutAt blockEnd inside = some (before, rest)) (hrest : Text.trim rest ≠ []) :
    l.isCrowded = true := by
  have hmark : Text.afterStart? blockMark (blockMark ++ inside) = some inside :=
    afterStart?_append
  have hbehind : l.behindBlock? = some rest := by
    rw [behindBlock?, h]
    simp only [Option.bind_eq_bind, Option.bind_some, hmark, hcut]
    rfl
  rw [isCrowded, hopen, hbehind]
  simpa using hrest

/-- Whether no expression follows the end of the block comment that the line begins in. -/
def isSilent (l : Line) : Bool :=
  !l.inBlock || l.mention?.isNone

theorem mention?_eq_expression? {l : Line} (h : l.isSilent = true) :
    l.mention? = l.expression? := by
  cases hblock : l.inBlock with
  | false =>
    rw [mention?, expression?, outside?, hblock]
    rfl
  | true =>
    rw [isSilent, hblock] at h
    rw [expression?, if_pos hblock]
    exact Option.isNone_iff_eq_none.1 h

end Line

/-! ### What lines show -/

/-- What a text outside block comments shows, and whether one is open after it. -/
inductive Shows : List Char → Sight → Option Bool → Prop
  | blank : Shows [] .blank (some false)
  | comment (text : List Char) : Shows (lineMark ++ text) (.comment text) (some false)
  | opened {inside : List Char} (h : Text.cutAt blockEnd inside = none) :
    Shows (blockMark ++ inside) .opened (some true)
  | block {inside before rest : List Char} (h : Text.cutAt blockEnd inside = some (before, rest))
    (hrest : Text.trim rest = []) : Shows (blockMark ++ inside) .block (some false)
  | crowded {inside before rest : List Char} (h : Text.cutAt blockEnd inside = some (before, rest))
    (hrest : Text.trim rest ≠ []) :
    Shows (blockMark ++ inside) .code (openAfter? false rest)
  | code {c : Char} {s : List Char} (hline : Text.afterStart? lineMark (c :: s) = none)
    (hblock : Text.afterStart? blockMark (c :: s) = none) : Shows (c :: s) .code none

theorem sight_blockMark (inside : List Char) :
    sight (blockMark ++ inside) =
      match Text.cutAt blockEnd inside with
      | none => .opened
      | some (_, after) => if (Text.trim after).isEmpty then .block else .code := rfl

theorem shows_blockMark (inside : List Char) :
    Shows (blockMark ++ inside) (sight (blockMark ++ inside))
      (openAfter? false (blockMark ++ inside)) := by
  rw [sight_blockMark, openAfter?_blockMark]
  cases hcut : Text.cutAt blockEnd inside with
  | none =>
    rw [openAfter?_of_cutAt_eq_none hcut]
    exact .opened hcut
  | some p =>
    rw [openAfter?_of_cutAt_eq_some hcut]
    by_cases hrest : Text.trim p.2 = []
    · simp only [hrest, ← openAfter?_trim false p.2]
      exact .block hcut hrest
    · simp only [List.isEmpty_iff, if_neg hrest]
      exact .crowded hcut hrest

/-- Text that neither begins with white space nor with a comment. -/
theorem openAfter?_eq_none {c : Char} {s : List Char} (hc : Text.isBlank c = false)
    (hline : Text.afterStart? lineMark (c :: s) = none)
    (hblock : Text.afterStart? blockMark (c :: s) = none) : openAfter? false (c :: s) = none := by
  rw [openAfter?, if_neg (by rw [hc]; exact Bool.false_ne_true)]
  · rintro t rfl rfl
    cases hline
  · rintro t rfl rfl
    cases hblock

theorem shows {s : List Char} (hs : ∀ c ∈ s.head?, Text.isBlank c = false) :
    Shows s (sight s) (openAfter? false s) := by
  cases s with
  | nil => exact .blank
  | cons c s =>
    cases hline : Text.afterStart? lineMark (c :: s) with
    | some text =>
      rw [Text.afterStart?_eq_some.1 hline]
      exact .comment text
    | none =>
      cases hblock : Text.afterStart? blockMark (c :: s) with
      | some inside =>
        rw [Text.afterStart?_eq_some.1 hblock]
        exact shows_blockMark inside
      | none =>
        rw [openAfter?_eq_none (hs c rfl) hline hblock, sight, hline, hblock]
        exact .code hline hblock

theorem sightFrom_eq (l : Line) :
    sightFrom l.inBlock (Text.trim l.text) =
      match l.outside? with
      | none => .hidden
      | some s => sight s := by
  obtain ⟨inBlock, text⟩ := l
  cases inBlock with
  | false => rfl
  | true =>
    simp only [sightFrom, Line.outside?, if_true]
    cases Text.cutAt blockEnd (Text.trim text) <;> rfl

/-! ### The first pass -/

theorem leading_cons_of_none {inBlock : Bool} {text : List Char} {rest : List (List Char)}
    (h : openAfter? inBlock text = none) : leading inBlock (text :: rest) = [] := by
  rw [leading, h]

theorem leading_cons_of_some {inBlock inBlock' : Bool} {text : List Char} {rest : List (List Char)}
    (h : openAfter? inBlock text = some inBlock') :
    leading inBlock (text :: rest) = ⟨inBlock, text⟩ :: leading inBlock' rest := by
  rw [leading, h]

/-- The pass ends at text outside comments. -/
theorem lead_stop {i lastBlank : Nat} {found : Option (List Char)} {l : Line}
    (h : l.openAfter? = none) (rest : List (List Char)) :
    lead i l.inBlock found lastBlank (l.text :: rest) = some (found, lastBlank) := by
  rw [lead, sightFrom_eq]
  cases hs : l.outside? with
  | none =>
    rw [l.openAfter?_eq_true hs] at h
    cases h
  | some s =>
    rw [l.openAfter?_eq_of_outside? hs] at h
    have hshows := shows (l.not_isBlank_of_outside? hs)
    simp only
    generalize sight s = v, openAfter? false s = o at hshows h
    cases hshows with
    | crowded | code => rfl
    | blank | comment | opened | block => cases h

/-- The pass goes on over a line without such text, unless comments crowd on it. -/
theorem lead_next {i lastBlank : Nat} {found : Option (List Char)} {l : Line} {inBlock' : Bool}
    (h : l.openAfter? = some inBlock') (hcrowded : l.isCrowded = false) (rest : List (List Char)) :
    lead i l.inBlock found lastBlank (l.text :: rest) =
      if l.isBare then lead (i + 1) inBlock' found i rest
      else
        match l.mention? with
        | none => lead (i + 1) inBlock' found lastBlank rest
        | some expression =>
          if found.isSome then none
          else lead (i + 1) inBlock' (some expression) lastBlank rest := by
  rw [lead, sightFrom_eq, Line.isBare, Line.mention?]
  cases hs : l.outside? with
  | none =>
    rw [l.openAfter?_eq_true hs] at h
    cases h
    rfl
  | some s =>
    have hshows := shows (l.not_isBlank_of_outside? hs)
    rw [← l.openAfter?_eq_of_outside? hs] at hshows
    simp only
    generalize sight s = v, hopen : l.openAfter? = o at hshows h
    cases hshows with
    | blank =>
      cases h
      rfl
    | comment text =>
      cases h
      rfl
    | opened hcut =>
      cases h
      rfl
    | block hcut hrest =>
      cases h
      rfl
    | crowded hcut hrest =>
      have hsome : l.openAfter?.isSome = true := by rw [hopen, h]; rfl
      rw [Line.isCrowded_of_cutAt_eq_some hsome hs hcut hrest] at hcrowded
      cases hcrowded
    | code => cases h

theorem Line.mention?_of_isBare {l : Line} (h : l.isBare = true) : l.mention? = none := by
  rw [mention?, eq_of_beq h]
  rfl

/-- A list of one member at most, as that member. -/
def atMostOne? {α : Type} : List α → Option (Option α)
  | [] => some none
  | [a] => some (some a)
  | _ => none

/-- **The pass finds the expressions that the header mentions,** if there is one at most. -/
theorem map_fst_lead {inBlock : Bool} {lines : List (List Char)}
    (h : ∀ l ∈ leading inBlock lines, l.isCrowded = false) (i lastBlank : Nat)
    (found : Option (List Char)) :
    (lead i inBlock found lastBlank lines).map Prod.fst =
      atMostOne? (found.toList ++ (leading inBlock lines).filterMap Line.mention?) := by
  induction lines generalizing i inBlock found lastBlank with
  | nil => cases found <;> rfl
  | cons text rest ih =>
    cases hopen : openAfter? inBlock text with
    | none =>
      rw [lead_stop (l := ⟨inBlock, text⟩) hopen, leading_cons_of_none hopen]
      cases found <;> rfl
    | some inBlock' =>
      rw [leading_cons_of_some hopen] at h ⊢
      obtain ⟨hl, hrest⟩ := List.forall_mem_cons.1 h
      rw [lead_next (l := ⟨inBlock, text⟩) hopen hl, List.filterMap_cons]
      split
      · next hbare => rw [ih hrest, Line.mention?_of_isBare hbare]
      · cases Line.mention? ⟨inBlock, text⟩ with
        | none => exact ih hrest _ _ _
        | some expression =>
          cases found with
          | none => exact ih hrest _ _ _
          | some other => rfl

/-! ### The expression of a source -/

/-- The lines of comments that a source begins with. -/
def comments (source : List Char) : List Line :=
  leading false (Text.lines source)

/-- The constraint expressions in the comments that a source begins with. -/
def expressions (source : List Char) : List (List Char) :=
  (comments source).filterMap Line.expression?

/-- The header is refused where there are two expressions or more, and has the one that there is
otherwise, if any. -/
def ReadsExpression (source : List Char) : Prop :=
  (ofSource? source = none ↔ 2 ≤ (expressions source).length) ∧
    ∀ h, ofSource? source = some h → h.expression = (expressions source).head?.map String.ofList

theorem map_expression_ofSource? {source : List Char}
    (hcrowded : ∀ l ∈ comments source, l.isCrowded = false)
    (hsilent : ∀ l ∈ comments source, l.isSilent = true) :
    (ofSource? source).map Header.expression =
      (atMostOne? (expressions source)).map (Option.map String.ofList) := by
  have hmentions : (comments source).filterMap Line.mention? = expressions source :=
    List.filterMap_congr fun l hl => l.mention?_eq_expression? (hsilent l hl)
  have hlead := map_fst_lead hcrowded 0 0 none
  rw [← comments, hmentions, Option.toList_none, List.nil_append] at hlead
  rw [ofSource?, ← hlead, Option.map_map, Option.map_map]
  rfl

theorem readsExpression_of_length_lt {source : List Char} (hlen : (expressions source).length < 2)
    (h : (ofSource? source).map Header.expression =
      some ((expressions source).head?.map String.ofList)) : ReadsExpression source := by
  obtain ⟨header, hsource, hheader⟩ := Option.map_eq_some_iff.1 h
  refine ⟨⟨fun hnone => ?_, fun hle => absurd hlen (Nat.not_lt.2 hle)⟩, fun header' h' => ?_⟩
  · rw [hsource] at hnone
    cases hnone
  · rw [hsource] at h'
    cases h'
    exact hheader

/-- **The expression of a source** is the one in the comments that it begins with, wherever it
stands among them, unless comments crowd on a line or an expression follows the end of a block
comment on its line. -/
theorem expression_ofSource? {source : List Char}
    (hcrowded : ∀ l ∈ comments source, l.isCrowded = false)
    (hsilent : ∀ l ∈ comments source, l.isSilent = true) :
    ReadsExpression source := by
  have hmap := map_expression_ofSource? hcrowded hsilent
  rcases hes : expressions source with _ | ⟨e, _ | ⟨e', es⟩⟩
  · rw [hes] at hmap
    exact readsExpression_of_length_lt (by rw [hes]; decide) (by rw [hmap, hes]; rfl)
  · rw [hes] at hmap
    exact readsExpression_of_length_lt (by rw [hes]; exact Nat.lt_succ_self 1)
      (by rw [hmap, hes]; rfl)
  · rw [hes] at hmap
    have hnone : ofSource? source = none := Option.map_eq_none_iff.1 hmap
    refine ⟨⟨fun _ => ?_, fun _ => hnone⟩, fun header h => ?_⟩
    · rw [hes]
      exact Nat.le_add_left 2 es.length
    · rw [hnone] at h
      cases h

/-- A line comment that follows a block comment on its line hides the expression below. -/
def crowdedSource : List Char :=
  "/* a */ // b\n//go:build ignore\n\npackage p\n".toList

/-- The expression below a crowd of comments is lost. -/
theorem not_readsExpression_crowded : ¬ReadsExpression crowdedSource := by
  intro h
  have hsource : ofSource? crowdedSource = some ⟨none, []⟩ := by decide +kernel
  have hexpr := h.2 _ hsource
  exact absurd hexpr (by decide +kernel)

/-- An expression between other comments, right above the text. -/
def commentedSource : List Char :=
  "/* a\n//go:build windows\n*/\n/* b */\n// c\n  //go:build linux && !cgo \npackage p\n".toList

theorem expression_commented :
    ReadsExpression commentedSource ∧ expressions commentedSource = ["linux && !cgo".toList] :=
  ⟨expression_ofSource? (by decide +kernel) (by decide +kernel), by decide +kernel⟩

end Header
end Constraint
end PackageListing
