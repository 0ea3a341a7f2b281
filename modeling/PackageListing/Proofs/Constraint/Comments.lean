/-
# Comments, character by character

Whether a place of a source stands in a block comment is a matter of the characters before it:
`openAfter?` goes through them one by one, and gives up at text outside comments and white space.
White space at the ends of a line does not matter (`openAfter?_trim`). The comments that a source
begins with are the lines before the one with the first such text (`leading`), each with whether it
begins inside a block comment.
-/

import PackageListing.Constraint.Header
import PackageListing.Proofs.Text.Trim

namespace PackageListing
namespace Constraint
namespace Header

open Text (isBlank)

/-- Whether a block comment is open after a text, which begins inside of one or outside. There is
no answer where anything but comments and white space stands in it. -/
def openAfter? : Bool → List Char → Option Bool
  | inBlock, [] => some inBlock
  | true, '*' :: '/' :: s => openAfter? false s
  | true, _ :: s => openAfter? true s
  | false, '/' :: '/' :: _ => some false
  | false, '/' :: '*' :: s => openAfter? true s
  | false, c :: s => if isBlank c then openAfter? false s else none

theorem openAfter?_blank {c : Char} (hc : isBlank c = true) (inBlock : Bool) (s : List Char) :
    openAfter? inBlock (c :: s) = openAfter? inBlock s := by
  have hslash : c ≠ '/' := by rintro rfl; exact absurd hc (by decide)
  have hstar : c ≠ '*' := by rintro rfl; exact absurd hc (by decide)
  cases inBlock with
  | true => rw [openAfter?]; exact fun _ h => absurd h hstar
  | false =>
    rw [openAfter?, if_pos hc]
    · exact fun _ h => absurd h hslash
    · exact fun _ h => absurd h hslash

theorem openAfter?_space_append {space : List Char} (hspace : ∀ c ∈ space, isBlank c = true)
    (inBlock : Bool) (s : List Char) : openAfter? inBlock (space ++ s) = openAfter? inBlock s := by
  induction space with
  | nil => rfl
  | cons c space ih =>
    rw [List.cons_append, openAfter?_blank (hspace c List.mem_cons_self),
      ih fun d hd => hspace d (List.mem_cons_of_mem c hd)]

/-- White space at the end of a text completes no mark. -/
theorem ne_cons_of_append_space {c : Char} {s space : List Char} (hc : isBlank c = false)
    (hspace : ∀ c ∈ space, isBlank c = true) (h : ∀ t, s = c :: t → False) :
    ∀ t, s ++ space = c :: t → False := by
  intro t heq
  cases s with
  | cons d s =>
    obtain ⟨rfl, -⟩ := List.cons.inj heq
    exact h s rfl
  | nil =>
    have hblank := hspace c ((List.nil_append space).symm.trans heq ▸ List.mem_cons_self)
    exact absurd (hc.symm.trans hblank) Bool.false_ne_true

theorem openAfter?_append_space {space : List Char} (hspace : ∀ c ∈ space, isBlank c = true)
    (inBlock : Bool) (s : List Char) : openAfter? inBlock (s ++ space) = openAfter? inBlock s := by
  have hslash : isBlank '/' = false := by decide
  have hstar : isBlank '*' = false := by decide
  fun_induction openAfter? inBlock s with
  | case1 inBlock =>
    have h := openAfter?_space_append hspace inBlock []
    rwa [List.append_nil, openAfter?] at h
  | case2 s ih => exact ih
  | case3 c s hne ih =>
    rw [List.cons_append, openAfter?, ih]
    exact fun t hc => ne_cons_of_append_space hslash hspace (fun t => hne t hc) t
  | case4 => rfl
  | case5 s ih => exact ih
  | case6 c s hline hblock hc ih => rw [List.cons_append, openAfter?_blank hc, ih]
  | case7 c s hline hblock hc =>
    rw [List.cons_append, openAfter?, if_neg hc]
    · exact fun t hc => ne_cons_of_append_space hslash hspace (fun t => hline t hc) t
    · exact fun t hc => ne_cons_of_append_space hstar hspace (fun t => hblock t hc) t

/-- **White space at the ends of a line does not matter.** -/
theorem openAfter?_trim (inBlock : Bool) (s : List Char) :
    openAfter? inBlock (Text.trim s) = openAfter? inBlock s := by
  obtain ⟨before, after, hs, hbefore, hafter⟩ := Text.exists_trim s
  rw [hs, openAfter?_append_space hafter, openAfter?_space_append hbefore, ← hs]

/-! ### Marks -/

theorem afterStart?_append {mark s : List Char} : Text.afterStart? mark (mark ++ s) = some s :=
  Text.afterStart?_eq_some.2 rfl

theorem openAfter?_blockMark (s : List Char) :
    openAfter? false (blockMark ++ s) = openAfter? true s := rfl

theorem openAfter?_blockEnd (s : List Char) :
    openAfter? true (blockEnd ++ s) = openAfter? false s := rfl

theorem openAfter?_true_cons {c : Char} {s : List Char}
    (h : Text.afterStart? blockEnd (c :: s) = none) :
    openAfter? true (c :: s) = openAfter? true s := by
  rw [openAfter?]
  rintro t rfl rfl
  have hmark : Text.afterStart? blockEnd ('*' :: '/' :: t) = some t := afterStart?_append
  rw [hmark] at h
  cases h

/-- **A block comment goes to its first end.** -/
theorem openAfter?_of_cutAt_eq_some {s before rest : List Char}
    (h : Text.cutAt blockEnd s = some (before, rest)) :
    openAfter? true s = openAfter? false rest := by
  induction s generalizing before with
  | nil => cases h
  | cons c s ih =>
    rw [Text.cutAt] at h
    split at h
    · next after hafter =>
      cases h
      rw [Text.afterStart?_eq_some.1 hafter, openAfter?_blockEnd]
    · next hnone =>
      obtain ⟨⟨before', rest'⟩, hcut, heq⟩ := Option.map_eq_some_iff.1 h
      cases heq
      rw [openAfter?_true_cons hnone, ih hcut]

theorem openAfter?_of_cutAt_eq_none {s : List Char} (h : Text.cutAt blockEnd s = none) :
    openAfter? true s = some true := by
  induction s with
  | nil => rfl
  | cons c s ih =>
    rw [Text.cutAt] at h
    split at h
    · cases h
    · next hnone => rw [openAfter?_true_cons hnone, ih (Option.map_eq_none_iff.1 h)]

/-! ### Lines -/

/-- A line of a source. -/
structure Line where
  /-- Whether it begins inside a block comment. -/
  inBlock : Bool
  /-- What it holds. -/
  text : List Char
  deriving DecidableEq

/-- The lines before the first text outside comments and white space. -/
def leading (inBlock : Bool) : List (List Char) → List Line
  | [] => []
  | text :: rest =>
    match openAfter? inBlock text with
    | none => []
    | some inBlock' => ⟨inBlock, text⟩ :: leading inBlock' rest

namespace Line

/-- Whether a block comment is open after the line. -/
def openAfter? (l : Line) : Option Bool :=
  Header.openAfter? l.inBlock l.text

/-- Whether the line holds nothing but white space, outside block comments. -/
def isBlank (l : Line) : Bool :=
  !l.inBlock && l.text.all Text.isBlank

/-- The trimmed text after the block comment that the line begins in, or of the whole line. -/
def outside? (l : Line) : Option (List Char) :=
  if l.inBlock then (Text.cutAt blockEnd (Text.trim l.text)).map fun p => Text.trim p.2
  else some (Text.trim l.text)

theorem openAfter?_eq_true {l : Line} (h : l.outside? = none) : l.openAfter? = some true := by
  obtain ⟨inBlock, text⟩ := l
  cases inBlock with
  | false => cases h
  | true =>
    rw [openAfter?, ← openAfter?_trim]
    exact openAfter?_of_cutAt_eq_none (Option.map_eq_none_iff.1 h)

theorem openAfter?_eq_of_outside? {l : Line} {s : List Char} (h : l.outside? = some s) :
    l.openAfter? = Header.openAfter? false s := by
  obtain ⟨inBlock, text⟩ := l
  rw [openAfter?, ← openAfter?_trim]
  cases inBlock with
  | false =>
    cases h
    rfl
  | true =>
    obtain ⟨⟨before, rest⟩, hcut, heq⟩ := Option.map_eq_some_iff.1 h
    cases heq
    exact (openAfter?_of_cutAt_eq_some hcut).trans (openAfter?_trim _ _).symm

theorem not_isBlank_of_outside? {l : Line} {s : List Char} (h : l.outside? = some s) :
    ∀ c ∈ s.head?, Text.isBlank c = false := by
  obtain ⟨inBlock, text⟩ := l
  cases inBlock with
  | false =>
    cases h
    exact Text.not_isBlank_of_mem_head?_trim
  | true =>
    obtain ⟨p, -, heq⟩ := Option.map_eq_some_iff.1 h
    cases heq
    exact Text.not_isBlank_of_mem_head?_trim

end Line

end Header
end Constraint
end PackageListing
