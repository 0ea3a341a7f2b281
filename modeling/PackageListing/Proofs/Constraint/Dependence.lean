/-
# What of a source its header depends on

The first pass over the lines of a source goes on from line to line until one stops it: the first
text outside comments, or a second expression (`Progress.turn`, `lead_cons`). What it finds does not
depend on the lines after that one (`lead_append`), nor do the lines of alternatives, which stand
above it (`lastBlank_le`). Both passes see the trimmed lines only (`ofLines?_map_trim`). So two
sources whose trimmed lines agree as far as the first pass reads have the same header, or both have
none (`header_of_trimmed_lines`).
-/

import PackageListing.Constraint.Header
import PackageListing.Proofs.Text.Lines

namespace PackageListing
namespace Constraint
namespace Header

/-! ### The first pass, line by line -/

/-- How far the first pass has come. -/
structure Progress where
  /-- Whether a block comment is open. -/
  inBlock : Bool
  /-- The expression that was found. -/
  found : Option (List Char)
  /-- The number of the last blank line. -/
  lastBlank : Nat

/-- What a line does to the first pass. -/
inductive Turn where
  /-- The pass goes on. -/
  | goesOn (p : Progress)
  /-- It stops with a result. -/
  | stops (result : Option (Option (List Char) × Nat))

namespace Progress

/-- Nothing is read. -/
def start : Progress := ⟨false, none, 0⟩

/-- What line `i` does to the pass. -/
def turn (i : Nat) (p : Progress) (line : List Char) : Turn :=
  match sightFrom p.inBlock (Text.trim line) with
  | .hidden | .opened => .goesOn { p with inBlock := true }
  | .blank => .goesOn { p with inBlock := false, lastBlank := i }
  | .block => .goesOn { p with inBlock := false }
  | .comment text =>
    match argument? "go:build".toList text with
    | none => .goesOn { p with inBlock := false }
    | some expression =>
      if p.found.isSome then .stops none
      else .goesOn { p with inBlock := false, found := some expression }
  | .code => .stops (some (p.found, p.lastBlank))

/-- What the pass finds in some lines, from line `i` on. -/
def lead (i : Nat) (p : Progress) (ls : List (List Char)) : Option (Option (List Char) × Nat) :=
  Header.lead i p.inBlock p.found p.lastBlank ls

/-- The place among some lines, from line `i` on, of the one that stops the pass. -/
def stop? (i : Nat) (p : Progress) : List (List Char) → Option Nat
  | [] => none
  | line :: rest =>
    match p.turn i line with
    | .goesOn p' => (p'.stop? (i + 1) rest).map (· + 1)
    | .stops _ => some 0

variable {i n : Nat} {p : Progress}

/-- **The pass takes its turns** until one stops it. -/
theorem lead_cons (line : List Char) (rest : List (List Char)) :
    p.lead i (line :: rest) =
      match p.turn i line with
      | .goesOn p' => p'.lead (i + 1) rest
      | .stops result => result := by
  rw [lead, Header.lead, turn]
  cases sightFrom p.inBlock (Text.trim line) with
  | comment text =>
    cases hargument : argument? "go:build".toList text with
    | none => simp only [hargument]; rfl
    | some expression =>
      simp only [hargument]
      split <;> rfl
  | hidden | blank | block | opened | code => rfl

/-- **A turn** goes on with the last blank line that there was or with its own, or stops without a
result or with what there was. -/
theorem turn_cases (p : Progress) (i : Nat) (line : List Char) :
    (∃ p', p.turn i line = .goesOn p' ∧ (p'.lastBlank = p.lastBlank ∨ p'.lastBlank = i)) ∨
      p.turn i line = .stops none ∨ p.turn i line = .stops (some (p.found, p.lastBlank)) := by
  rw [turn]
  split
  · exact .inl ⟨_, rfl, .inl rfl⟩
  · exact .inl ⟨_, rfl, .inl rfl⟩
  · exact .inl ⟨_, rfl, .inr rfl⟩
  · exact .inl ⟨_, rfl, .inl rfl⟩
  · split
    · exact .inl ⟨_, rfl, .inl rfl⟩
    · split
      · exact .inr (.inl rfl)
      · exact .inl ⟨_, rfl, .inl rfl⟩
  · exact .inr (.inr rfl)

theorem lead_cons_of_goesOn {p' : Progress} {line : List Char} (h : p.turn i line = .goesOn p')
    (rest : List (List Char)) : p.lead i (line :: rest) = p'.lead (i + 1) rest := by
  rw [lead_cons, h]

theorem lead_cons_of_stops {result : Option (Option (List Char) × Nat)} {line : List Char}
    (h : p.turn i line = .stops result) (rest : List (List Char)) :
    p.lead i (line :: rest) = result := by
  rw [lead_cons, h]

/-- **The pass reads no line after the one that stops it.** -/
theorem lead_append {ls : List (List Char)} (h : p.stop? i ls = some n)
    (rest : List (List Char)) : p.lead i (ls ++ rest) = p.lead i ls := by
  induction ls generalizing i p n with
  | nil => cases h
  | cons line ls ih =>
    rw [List.cons_append]
    cases hturn : p.turn i line with
    | stops result => rw [lead_cons_of_stops hturn, lead_cons_of_stops hturn]
    | goesOn p' =>
      rw [stop?, hturn] at h
      obtain ⟨m, hm, -⟩ := Option.map_eq_some_iff.1 h
      rw [lead_cons_of_goesOn hturn, lead_cons_of_goesOn hturn, ih hm]

/-- The line that stops the pass stops it without the lines below, too. -/
theorem stop?_take {ls : List (List Char)} (h : p.stop? i ls = some n) :
    p.stop? i (ls.take (n + 1)) = some n := by
  induction ls generalizing i p n with
  | nil => cases h
  | cons line ls ih =>
    rw [stop?] at h
    rw [List.take_succ_cons, stop?]
    cases hturn : p.turn i line with
    | stops result =>
      rw [hturn] at h
      exact h
    | goesOn p' =>
      rw [hturn] at h
      obtain ⟨m, hm, rfl⟩ := Option.map_eq_some_iff.1 h
      exact congrArg (Option.map (· + 1)) (ih hm)

theorem lt_length_of_stop? {ls : List (List Char)} (h : p.stop? i ls = some n) :
    n < ls.length := by
  induction ls generalizing i p n with
  | nil => cases h
  | cons line ls ih =>
    rw [stop?] at h
    cases hturn : p.turn i line with
    | stops result =>
      rw [hturn] at h
      cases h
      exact Nat.zero_lt_succ _
    | goesOn p' =>
      rw [hturn] at h
      obtain ⟨m, hm, rfl⟩ := Option.map_eq_some_iff.1 h
      exact Nat.succ_lt_succ (ih hm)

/-- **The last blank line that the pass gives stands above the line that stops it.** -/
theorem lastBlank_le {ls : List (List Char)} {found : Option (List Char)} {k : Nat}
    (hp : p.lastBlank ≤ i) (h : p.stop? i ls = some n) (hlead : p.lead i ls = some (found, k)) :
    k ≤ i + n := by
  induction ls generalizing i p n with
  | nil => cases h
  | cons line ls ih =>
    rw [stop?] at h
    rcases p.turn_cases i line with ⟨p', hturn, hlast⟩ | hturn | hturn
    · rw [hturn] at h
      obtain ⟨m, hm, rfl⟩ := Option.map_eq_some_iff.1 h
      rw [lead_cons_of_goesOn hturn] at hlead
      have hle := ih (by omega) hm hlead
      omega
    · rw [lead_cons_of_stops hturn] at hlead
      cases hlead
    · rw [lead_cons_of_stops hturn] at hlead
      cases hlead
      exact Nat.le_add_right_of_le hp

theorem turn_trim (line : List Char) : p.turn i (Text.trim line) = p.turn i line := by
  rw [turn, Text.trim_trim, turn]

theorem lead_map_trim (ls : List (List Char)) : p.lead i (ls.map Text.trim) = p.lead i ls := by
  induction ls generalizing i p with
  | nil => rfl
  | cons line ls ih =>
    rw [List.map_cons, lead_cons, lead_cons, turn_trim]
    cases p.turn i line with
    | stops => rfl
    | goesOn p' => exact ih

theorem stop?_map_trim (ls : List (List Char)) : p.stop? i (ls.map Text.trim) = p.stop? i ls := by
  induction ls generalizing i p with
  | nil => rfl
  | cons line ls ih =>
    rw [List.map_cons, stop?, stop?, turn_trim]
    cases p.turn i line with
    | stops => rfl
    | goesOn p' => exact congrArg (Option.map (· + 1)) ih

end Progress

/-! ### The header of some lines -/

theorem alternativesIn_map_trim (inBlock : Bool) (ls : List (List Char)) :
    alternativesIn inBlock (ls.map Text.trim) = alternativesIn inBlock ls := by
  induction ls generalizing inBlock with
  | nil => rfl
  | cons line ls ih => simp only [List.map_cons, alternativesIn, Text.trim_trim, ih]

/-- The header of a source with these lines. -/
def ofLines? (ls : List (List Char)) : Option Header :=
  (Progress.start.lead 0 ls).map fun (found, lastBlank) =>
    { expression := found.map String.ofList
      alternatives := (alternativesIn false (ls.take lastBlank)).map String.ofList }

theorem ofSource?_eq (source : List Char) : ofSource? source = ofLines? (Text.lines source) := rfl

/-- **Only the trimmed lines matter.** -/
theorem ofLines?_map_trim (ls : List (List Char)) : ofLines? (ls.map Text.trim) = ofLines? ls := by
  simp only [ofLines?, Progress.lead_map_trim, ← List.map_take, alternativesIn_map_trim]

/-- **The lines after the one that stops the first pass do not matter.** -/
theorem ofLines?_append {ls : List (List Char)} {n : Nat}
    (h : Progress.start.stop? 0 ls = some n) (rest : List (List Char)) :
    ofLines? (ls ++ rest) = ofLines? ls := by
  rw [ofLines?, ofLines?, Progress.lead_append h]
  refine Option.map_congr fun ⟨found, k⟩ hlead => ?_
  have hle : k ≤ 0 + n := Progress.lastBlank_le (Nat.le_refl 0) h hlead
  have hlt := Progress.lt_length_of_stop? h
  have htake : (ls ++ rest).take k = ls.take k := List.take_append_of_le_length (by omega)
  simp only [htake]

theorem ofLines?_take {ls : List (List Char)} {n : Nat}
    (h : Progress.start.stop? 0 ls = some n) : ofLines? (ls.take (n + 1)) = ofLines? ls := by
  have hread := ofLines?_append (Progress.stop?_take h) (ls.drop (n + 1))
  rw [List.take_append_drop] at hread
  exact hread.symm

/-- The number of the line of a source that stops the first pass, if one does. -/
def stop? (source : List Char) : Option Nat :=
  Progress.start.stop? 0 (Text.lines source)

/-- **The header depends on the trimmed lines as far as the first pass reads:** on those up to the
line that stops it, or on all where none does. So what stands below that line does not matter, nor
does the white space around the lines, with carriage returns before their line feeds or without. -/
theorem header_of_trimmed_lines :
    (∀ s t n, stop? s = some n →
      ((Text.lines t).map Text.trim).take (n + 1) = ((Text.lines s).map Text.trim).take (n + 1) →
      ofSource? t = ofSource? s) ∧
      (∀ s t, stop? s = none →
        (Text.lines t).map Text.trim = (Text.lines s).map Text.trim → ofSource? t = ofSource? s) ∧
      (∀ front rest rest' n, stop? (front ++ ['\n']) = some n →
        ofSource? (front ++ '\n' :: rest) = ofSource? (front ++ '\n' :: rest')) ∧
      ∀ ls s t, Text.LaidOut ls s → Text.LaidOut ls t → ofSource? t = ofSource? s := by
  have htrimmed (s t : List Char)
      (h : (Text.lines t).map Text.trim = (Text.lines s).map Text.trim) :
      ofSource? t = ofSource? s := by
    rw [ofSource?_eq, ofSource?_eq, ← ofLines?_map_trim, h, ofLines?_map_trim]
  refine ⟨fun s t n hstop hagree => ?_, fun s t _ h => htrimmed s t h,
    fun front rest rest' n hstop => ?_, fun ls s t hs ht => ?_⟩
  · rw [stop?, ← Progress.stop?_map_trim] at hstop
    have hsource := ofLines?_take hstop
    -- The line that stops the pass on `s` stops it on `t` as well.
    have hother : ofLines? (((Text.lines t).map Text.trim).take (n + 1)) =
        ofLines? ((Text.lines t).map Text.trim) := by
      have hread := ofLines?_append (Progress.stop?_take hstop)
        (((Text.lines t).map Text.trim).drop (n + 1))
      rw [← hagree, List.take_append_drop] at hread
      exact hread.symm
    rw [ofSource?_eq, ofSource?_eq, ← ofLines?_map_trim, ← hother, hagree, hsource,
      ofLines?_map_trim]
  · rw [ofSource?_eq, ofSource?_eq, Text.lines_append, Text.lines_append front rest',
      ofLines?_append hstop, ofLines?_append hstop]
  · exact htrimmed s t (ht.map_trim_lines.trans hs.map_trim_lines.symm)

/-- A header with line feeds, and more text below it. -/
def plainSource : List Char :=
  "// +build linux\n\n//go:build linux\npackage p\n//go:build ignore\n".toList

/-- The same header with carriage returns and indentation, and nothing below it. -/
def indentedSource : List Char :=
  "\t// +build linux\r\n \r\n  //go:build linux \r\npackage p".toList

theorem header_of_indented :
    stop? plainSource = some 3 ∧ ofSource? indentedSource = ofSource? plainSource ∧
      ofSource? plainSource = some ⟨some "linux", ["linux"]⟩ := by
  have hstop : stop? plainSource = some 3 := by decide +kernel
  exact ⟨hstop, header_of_trimmed_lines.1 plainSource indentedSource 3 hstop (by decide +kernel),
    by decide +kernel⟩

end Header
end Constraint
end PackageListing
