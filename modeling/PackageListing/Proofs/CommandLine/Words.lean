/-
# Known flags with one dash

A word is a known flag with one dash (`IsShort`) where a known name stands between the dash and its
end or an equality sign. Only such words are spelt anew (`spelt_of_isShort`,
`spelt_of_not_isShort`), so a known flag comes out with two dashes, however it was spelt
(`spelt_dashed`). Before the separator this is done to every word, after it to none
(`normalize_append`).
-/

import PackageListing.CommandLine.Words

namespace PackageListing
namespace CommandLine

/-- A name that can be told from dashes and values. -/
structure IsFlagName (name : String) : Prop where
  ne_empty : name ≠ ""
  head : name.toList.head? ≠ some '-'
  plain : '=' ∉ name.toList

instance (name : String) : Decidable (IsFlagName name) :=
  decidable_of_iff (name ≠ "" ∧ name.toList.head? ≠ some '-' ∧ '=' ∉ name.toList)
    ⟨fun ⟨hne, hhead, hplain⟩ => ⟨hne, hhead, hplain⟩, fun h => ⟨h.ne_empty, h.head, h.plain⟩⟩

/-- What may follow the name of a flag in its word: nothing, or a value after an equality sign. -/
def IsEnding (rest : String) : Prop :=
  rest = "" ∨ ∃ value, rest = "=" ++ value

/-- The word is a known flag with one dash. -/
def IsShort (known : List String) (word : String) : Prop :=
  ∃ name ∈ known, ∃ rest, IsEnding rest ∧ word = "-" ++ (name ++ rest)

/-- How many dashes a flag has. -/
inductive Dashes where
  | one
  | two
  deriving DecidableEq

/-- The dashes before the name of a flag. -/
def Dashes.text : Dashes → String
  | .one => "-"
  | .two => "--"

variable {known : List String} {name rest word : String}

theorem IsFlagName.exists_cons (h : IsFlagName name) :
    ∃ c s, name.toList = c :: s ∧ c ≠ '-' := by
  obtain ⟨c, s, hs⟩ := List.exists_cons_of_ne_nil (mt String.toList_eq_nil_iff.1 h.ne_empty)
  refine ⟨c, s, hs, fun hc => h.head ?_⟩
  rw [hs, hc, List.head?_cons]

/-- A flag is no separator. -/
theorem IsFlagName.dashed_ne_separator (h : IsFlagName name) (dashes : Dashes) (rest : String) :
    dashes.text ++ (name ++ rest) ≠ separator := by
  obtain ⟨c, s, hs, hc⟩ := h.exists_cons
  intro heq
  have hlist : dashes.text.toList ++ c :: (s ++ rest.toList) = ['-', '-'] := by
    rw [← List.cons_append, ← hs, ← String.toList_append, ← String.toList_append, heq]
    rfl
  cases dashes with
  | one => exact hc (List.cons.inj (List.cons.inj hlist).2).1
  | two => cases (List.cons.inj (List.cons.inj hlist).2).2

theorem flagName_append (hname : '=' ∉ name.toList) (hrest : IsEnding rest) :
    flagName (name ++ rest).toList = name := by
  have hall : ∀ c ∈ name.toList, (c != '=') = true := fun c hc =>
    bne_iff_ne.2 fun heq => hname (heq ▸ hc)
  rw [flagName, String.toList_append, List.takeWhile_append_of_pos hall]
  rcases hrest with rfl | ⟨value, rfl⟩
  · simp
  · simp

theorem exists_flagName (flag : List Char) :
    ∃ rest, IsEnding rest ∧ String.ofList flag = flagName flag ++ rest := by
  refine ⟨String.ofList (flag.dropWhile (· != '=')), ?_, ?_⟩
  · have hhead := List.head?_dropWhile_not (· != '=') flag
    cases hdrop : flag.dropWhile (· != '=') with
    | nil => exact .inl rfl
    | cons c value =>
      rw [hdrop] at hhead
      obtain rfl : c = '=' := by simpa using hhead
      exact .inr ⟨String.ofList value, String.toList_inj.1 (by simp)⟩
  · rw [flagName, ← String.ofList_append, List.takeWhile_append_dropWhile]

/-- **All other words** stay as they are. -/
theorem spelt_of_not_isShort (h : ¬IsShort known word) : spelt known word = word := by
  rw [spelt]
  split
  · next flag hflag =>
    refine if_neg fun hknownFlag => h ?_
    obtain ⟨rest, hrest, hsplit⟩ := exists_flagName flag
    refine ⟨flagName flag, ?_, rest, hrest, String.toList_inj.1 ?_⟩
    · simpa using (Bool.and_eq_true_iff.1 hknownFlag).2
    · rw [← hsplit, String.toList_append, hflag]
      exact congrArg (List.cons '-') String.toList_ofList.symm
  · rfl

section

variable (hknown : ∀ name ∈ known, IsFlagName name)

include hknown

/-- **A known flag with one dash** gets another one. -/
theorem spelt_of_isShort (h : IsShort known word) : spelt known word = "-" ++ word := by
  obtain ⟨name, hname, rest, hrest, rfl⟩ := h
  obtain ⟨c, s, hs, hc⟩ := (hknown name hname).exists_cons
  have hflag : flagName (name ++ rest).toList = name :=
    flagName_append (hknown name hname).plain hrest
  have hword : ("-" ++ (name ++ rest)).toList = '-' :: (name ++ rest).toList := String.toList_append
  have hdash : ((name ++ rest).toList.head? != some '-') = true := by
    rw [String.toList_append, hs, List.cons_append, List.head?_cons]
    exact bne_iff_ne.2 fun heq => hc (Option.some.inj heq)
  rw [spelt, hword]
  simp only [hflag, hdash, List.contains_iff_mem.2 hname]
  rfl

theorem spelt_eq_self_iff : spelt known word = word ↔ ¬IsShort known word := by
  refine ⟨fun heq h => ?_, spelt_of_not_isShort⟩
  have hlength := congrArg String.length (spelt_of_isShort hknown h)
  have hone : "-".length = 1 := by decide
  rw [heq, String.length_append, hone] at hlength
  omega

/-- **A known flag has two dashes** afterwards, however it was spelt. -/
theorem spelt_dashed (hname : name ∈ known) (hrest : IsEnding rest) (dashes : Dashes) :
    spelt known (dashes.text ++ (name ++ rest)) = "--" ++ (name ++ rest) := by
  cases dashes with
  | one =>
    rw [Dashes.text, spelt_of_isShort hknown ⟨name, hname, rest, hrest, rfl⟩, ← String.append_assoc]
    rfl
  | two =>
    refine spelt_of_not_isShort ?_
    rintro ⟨other, hother, rest', -, heq⟩
    obtain ⟨c, s, hs, hc⟩ := (hknown other hother).exists_cons
    have hlist : '-' :: '-' :: (name.toList ++ rest.toList) =
        '-' :: (other.toList ++ rest'.toList) := by
      have htext := congrArg String.toList heq
      simp only [String.toList_append] at htext
      exact htext
    rw [hs] at hlist
    exact hc (List.cons.inj (List.cons.inj hlist).2).1.symm

theorem spelt_dashed_name (hname : name ∈ known) (dashes : Dashes) :
    spelt known (dashes.text ++ name) = "--" ++ name := by
  have h := spelt_dashed hknown hname (.inl rfl) dashes
  rwa [String.append_empty] at h

end

/-- **Up to the separator every word is spelt,** and from there on none. -/
theorem normalize_append {words : List String} (h : separator ∉ words) (others : List String) :
    normalize known (words ++ separator :: others) =
      words.map (spelt known) ++ separator :: others := by
  induction words with
  | nil => exact if_pos rfl
  | cons word words ih =>
    obtain ⟨hword, hwords⟩ := not_or.1 (mt List.mem_cons.2 h)
    rw [List.cons_append, normalize, if_neg (Ne.symm hword), ih hwords]
    rfl

end CommandLine
end PackageListing
