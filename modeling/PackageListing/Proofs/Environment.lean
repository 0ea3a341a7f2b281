/-
# Entries and their first equality sign

A text is cut at the first place of a character (`Text.cutAt_singleton_eq_some_iff`), or nowhere if
the character is not in it. So an entry has the name before its first equality sign and the value
after it (`Environment.entry?_eq_some_iff`), and only a text without the sign is none
(`Environment.entry?_eq_none_iff`).
-/

import PackageListing.Environment

namespace PackageListing

namespace Text

variable {mark : Char} {s before rest : List Char}

theorem cutAt_singleton_cons (mark c : Char) (s : List Char) : cutAt [mark] (c :: s) =
    if mark = c then some ([], s) else (cutAt [mark] s).map fun p => (c :: p.1, p.2) := by
  by_cases h : mark = c
  · simp [cutAt, afterStart?, h]
  · simp [cutAt, afterStart?, h]

theorem cutAt_singleton_eq_none_iff : cutAt [mark] s = none ↔ mark ∉ s := by
  induction s with
  | nil => simp [cutAt]
  | cons c s ih =>
    rw [cutAt_singleton_cons, List.mem_cons, not_or]
    split
    · next h => simp [h]
    · next h => simp [h, ih]

/-- **A text is cut at the first mark.** -/
theorem cutAt_singleton_eq_some_iff :
    cutAt [mark] s = some (before, rest) ↔ s = before ++ mark :: rest ∧ mark ∉ before := by
  induction s generalizing before with
  | nil => simp [cutAt]
  | cons c s ih =>
    rw [cutAt_singleton_cons]
    split
    · next h =>
      subst h
      cases before with
      | nil => simp [eq_comm]
      | cons first before => simp +contextual
    · next h =>
      cases before with
      | nil => simp [Ne.symm h]
      | cons first before =>
        rw [Option.map_eq_some_iff, List.cons_append, List.mem_cons, not_or]
        constructor
        · rintro ⟨⟨_, _⟩, hcut, heq⟩
          cases heq
          obtain ⟨rfl, hmark⟩ := ih.1 hcut
          exact ⟨rfl, h, hmark⟩
        · rintro ⟨heq, -, hmark⟩
          obtain ⟨rfl, rfl⟩ := List.cons.inj heq
          exact ⟨(before, rest), ih.2 ⟨rfl, hmark⟩, rfl⟩

end Text

namespace Environment

variable {e name value : String}

/-- **An entry has its name before the first equality sign.** -/
theorem entry?_eq_some_iff :
    entry? e = some (name, value) ↔ e = name ++ "=" ++ value ∧ '=' ∉ name.toList := by
  rw [Environment.entry?, Option.map_eq_some_iff]
  constructor
  · rintro ⟨⟨before, rest⟩, hcut, heq⟩
    obtain ⟨htext, hmark⟩ := Text.cutAt_singleton_eq_some_iff.1 hcut
    cases heq
    refine ⟨String.toList_inj.1 ?_, by rwa [String.toList_ofList]⟩
    simp [htext]
  · rintro ⟨rfl, hmark⟩
    refine ⟨(name.toList, value.toList), Text.cutAt_singleton_eq_some_iff.2 ⟨?_, hmark⟩, ?_⟩
    · simp
    · rw [String.ofList_toList, String.ofList_toList]

theorem entry?_eq_none_iff : entry? e = none ↔ '=' ∉ e.toList := by
  rw [Environment.entry?, Option.map_eq_none_iff, Text.cutAt_singleton_eq_none_iff]

end Environment
end PackageListing
