/-
# Reading back what was written

A plain value is read off the front of its tokens, with whatever follows them
(`Plain.isRead`): the bracket or brace that a value begins with says how it goes on, and a
value never begins with a bracket that closes. So the text of a plain value, with blanks and line
feeds after it, denotes that value, as characters (`Plain.parse?_text`) and as bytes
(`Plain.ofBytes?_encode`).
-/

import PackageListing.Proofs.Json.Token
import PackageListing.Proofs.Text.Utf8

namespace PackageListing
namespace Json

/-- A value is read off the front of its tokens. -/
def IsRead (j : Json) : Prop :=
  ∀ rest, ∃ hlt, readValue (j.tokens ++ rest) = some ⟨j, rest, hlt⟩

/-- A value does not begin with the bracket that closes an array. -/
theorem head?_tokens (j : Json) : ∃ t, j.tokens.head? = some t ∧ t ≠ .sign ']' := by
  cases j <;> exact ⟨_, rfl, by simp⟩

theorem readElements_last {input after : List Token} {j : Json}
    {hlt : (Token.sign ']' :: after).length < input.length}
    (h : readValue input = some ⟨j, .sign ']' :: after, hlt⟩) :
    ∃ hlt', readElements input = some ⟨[j], after, hlt'⟩ := by
  refine ⟨by simp only [List.length_cons] at hlt; omega, ?_⟩
  rw [readElements, h]
  rfl

theorem readElements_next {input after rest : List Token} {j : Json} {l : List Json}
    {hlt : (Token.sign ',' :: after).length < input.length} {hlt' : rest.length < after.length}
    (h : readValue input = some ⟨j, .sign ',' :: after, hlt⟩)
    (hmore : readElements after = some ⟨l, rest, hlt'⟩) :
    ∃ hlt'', readElements input = some ⟨j :: l, rest, hlt''⟩ := by
  refine ⟨by simp only [List.length_cons] at hlt; omega, ?_⟩
  rw [readElements, h]
  simp only [Option.bind_eq_bind, Option.bind_some, hmore]
  rfl

/-- The elements of an array are read up to its closing bracket. -/
theorem readElements_tokens {j : Json} {l : List Json} (hj : IsRead j) (hl : ∀ k ∈ l, IsRead k)
    (rest : List Token) :
    ∃ hlt, readElements (j.tokens ++ elementsTokens false l ++ .sign ']' :: rest) =
      some ⟨j :: l, rest, hlt⟩ := by
  induction l generalizing j with
  | nil =>
    obtain ⟨hlt, hread⟩ := hj (.sign ']' :: rest)
    rw [elementsTokens, List.append_nil]
    exact readElements_last hread
  | cons k l ih =>
    obtain ⟨hk, hl⟩ := List.forall_mem_cons.1 hl
    obtain ⟨hlt', hmore⟩ := ih hk hl
    obtain ⟨hlt, hread⟩ :=
      hj (.sign ',' :: (k.tokens ++ elementsTokens false l ++ .sign ']' :: rest))
    rw [List.append_assoc]
    exact readElements_next hread hmore

theorem readValue_bracket {after rest : List Token} {l : List Json}
    {hlt : rest.length < after.length} (hafter : after.head? ≠ some (.sign ']'))
    (h : readElements after = some ⟨l, rest, hlt⟩) :
    ∃ hlt', readValue (.sign '[' :: after) = some ⟨.array l, rest, hlt'⟩ := by
  refine ⟨Nat.lt_succ_of_lt hlt, ?_⟩
  rw [readValue]
  · rw [h]
    rfl
  · rintro more rfl
    exact hafter rfl

theorem isRead_array {l : List Json} (h : ∀ j ∈ l, IsRead j) : IsRead (.array l) := by
  intro rest
  cases l with
  | nil => exact ⟨_, by rw [readValue.eq_def]; rfl⟩
  | cons j l =>
    obtain ⟨hj, hl⟩ := List.forall_mem_cons.1 h
    obtain ⟨hlt, hread⟩ := readElements_tokens hj hl rest
    have htokens : (Json.array (j :: l)).tokens ++ rest =
        .sign '[' :: (j.tokens ++ elementsTokens false l ++ .sign ']' :: rest) := by
      simp [tokens, elementsTokens]
    obtain ⟨t, ht, hne⟩ := head?_tokens j
    rw [htokens]
    refine readValue_bracket ?_ hread
    rw [List.append_assoc, List.head?_append, ht]
    exact fun h => hne (Option.some.inj h)

theorem readMembers_last {after rest : List Token} {key : Option String} {j : Json}
    {hlt : (Token.sign '\x7d' :: rest).length < after.length}
    (h : readValue after = some ⟨j, .sign '\x7d' :: rest, hlt⟩) :
    ∃ hlt', readMembers (.string key :: .sign ':' :: after) = some ⟨[(key, j)], rest, hlt'⟩ := by
  refine ⟨by simp only [List.length_cons] at hlt ⊢; omega, ?_⟩
  rw [readMembers, h]
  rfl

theorem readMembers_next {after more rest : List Token} {key : Option String} {j : Json}
    {l : List (Option String × Json)} {hlt : (Token.sign ',' :: more).length < after.length}
    {hlt' : rest.length < more.length} (h : readValue after = some ⟨j, .sign ',' :: more, hlt⟩)
    (hmore : readMembers more = some ⟨l, rest, hlt'⟩) :
    ∃ hlt'', readMembers (.string key :: .sign ':' :: after) =
      some ⟨(key, j) :: l, rest, hlt''⟩ := by
  refine ⟨by simp only [List.length_cons] at hlt ⊢; omega, ?_⟩
  rw [readMembers, h]
  simp only [Option.bind_eq_bind, Option.bind_some, hmore]
  rfl

/-- The members of an object are read up to its closing brace. -/
theorem readMembers_tokens {m : Option String × Json} {l : List (Option String × Json)}
    (hm : IsRead m.2) (hl : ∀ n ∈ l, IsRead n.2) (rest : List Token) :
    ∃ hlt, readMembers (.string m.1 :: .sign ':' ::
        (m.2.tokens ++ membersTokens false l ++ .sign '\x7d' :: rest)) =
      some ⟨m :: l, rest, hlt⟩ := by
  induction l generalizing m with
  | nil =>
    obtain ⟨hlt, hread⟩ := hm (.sign '\x7d' :: rest)
    rw [membersTokens, List.append_nil]
    exact readMembers_last hread
  | cons n l ih =>
    obtain ⟨hn, hl⟩ := List.forall_mem_cons.1 hl
    obtain ⟨hlt', hmore⟩ := ih hn hl
    obtain ⟨hlt, hread⟩ := hm (.sign ',' :: .string n.1 :: .sign ':' ::
      (n.2.tokens ++ membersTokens false l ++ .sign '\x7d' :: rest))
    have htokens : membersTokens false (n :: l) ++ .sign '\x7d' :: rest =
        .sign ',' :: .string n.1 :: .sign ':' ::
          (n.2.tokens ++ membersTokens false l ++ .sign '\x7d' :: rest) := by
      simp [membersTokens]
    rw [List.append_assoc, htokens]
    exact readMembers_next hread hmore

theorem isRead_object {l : List (Option String × Json)} (h : ∀ m ∈ l, IsRead m.2) :
    IsRead (.object l) := by
  intro rest
  cases l with
  | nil => exact ⟨_, by rw [readValue.eq_def]; rfl⟩
  | cons m l =>
    obtain ⟨hm, hl⟩ := List.forall_mem_cons.1 h
    obtain ⟨hlt, hread⟩ := readMembers_tokens hm hl rest
    have htokens : (Json.object (m :: l)).tokens ++ rest = .sign '\x7b' :: .string m.1 ::
        .sign ':' :: (m.2.tokens ++ membersTokens false l ++ .sign '\x7d' :: rest) := by
      simp [tokens, membersTokens]
    rw [htokens]
    refine ⟨Nat.lt_succ_of_lt hlt, ?_⟩
    rw [readValue, hread]
    · rfl
    · rintro more ⟨⟩

/-- **A plain value is read** off the front of its tokens. -/
theorem Plain.isRead {j : Json} (h : Plain j) : IsRead j := by
  induction h with
  | null | bool | integer | string => exact fun rest => ⟨_, by rw [readValue.eq_def]; rfl⟩
  | array _ ih => exact isRead_array ih
  | object _ ih =>
    refine isRead_object fun m hm => ?_
    obtain ⟨n, hn, rfl⟩ := List.mem_map.1 hm
    exact ih n hn

/-! ### Texts -/

theorem tokens?_separators {s : List Char} (h : ∀ c ∈ s, isSeparator c = true) :
    tokens? (s.map some) = some [] := by
  induction s with
  | nil => rw [List.map_nil, tokens?]
  | cons c s ih =>
    obtain ⟨hc, hs⟩ := List.forall_mem_cons.1 h
    rw [List.map_cons, tokens?, if_pos hc, ih hs]

theorem endsNumber_separators {s : List Char} (h : ∀ c ∈ s, isSeparator c = true) :
    EndsNumber (s.map some) := by
  cases s with
  | nil => exact fun c hc => nomatch hc
  | cons c s =>
    have hc := h c List.mem_cons_self
    simp only [isSeparator, Bool.or_eq_true, beq_iff_eq] at hc
    rintro _ ⟨⟩
    rcases hc with ((rfl | rfl) | rfl) | rfl <;> decide

/-- **The text of a plain value denotes the value,** whatever only separates tokens after it. -/
theorem Plain.parse?_text {j : Json} (h : Plain j) {s : List Char}
    (hs : ∀ c ∈ s, isSeparator c = true) : parse? ((j.text ++ s).map some) = some j := by
  have hcut := h.isCut (endsNumber_separators hs)
  obtain ⟨hlt, hread⟩ := h.isRead []
  rw [IsCut, tokens?_separators hs] at hcut
  rw [List.map_append, parse?, hcut]
  simp only [Option.map_eq_map, Option.map_some, Option.bind_eq_bind, Option.bind_some, hread]
  rfl

theorem Plain.ofString?_render {j : Json} (h : Plain j) : ofString? j.render = some j := by
  have hparse := h.parse?_text (List.forall_mem_nil _)
  rw [List.append_nil] at hparse
  rw [ofString?, render, String.toList_ofList, hparse]

/-- **The bytes of such a text denote the value,** too. -/
theorem Plain.ofBytes?_encode {j : Json} (h : Plain j) {s : List Char}
    (hs : ∀ c ∈ s, isSeparator c = true) :
    ofBytes? (Text.encode (j.render.toList ++ s)) = some j := by
  rw [ofBytes?, Text.decode_encode, render, String.toList_ofList]
  exact h.parse?_text hs

end Json
end PackageListing
