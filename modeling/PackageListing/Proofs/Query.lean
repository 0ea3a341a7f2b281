/-
# Reading queries back

A quoted word is read from its opening quote: a backslash stands for the character after it, and the
first quote without a backslash ends the word (`word?`). So the word that was quoted is read, and
the reading ends where the quoted word does, whatever comes after it (`word?_quoted`). Hence the
term for a file shows the file as seen from the root, and where the term ends (`term?_term`).

A query for files alone is the union of their terms, and it is split by reading term after term
(`terms?`). The text between two terms also splits where the names of the files contain it, so a
union of terms is a union of no others (`terms?_union`, `union_inj`). The main statement is
`expression_splits`.
-/

import PackageListing.Query

namespace PackageListing
namespace Query

/-! ### Reading -/

/-- Reads a word after its opening quote: its text without the backslashes that stand for the
character after them, and what comes after the first quote that is not such a character. -/
def close? : List Char → Option (List Char × List Char)
  | '"' :: s => some ([], s)
  | '\\' :: c :: s => (close? s).map fun p => (c :: p.1, p.2)
  | c :: s => (close? s).map fun p => (c :: p.1, p.2)
  | [] => none

/-- Reads a word from its opening quote, and gives what comes after its closing quote. -/
def word? : List Char → Option (String × List Char)
  | '"' :: s => (close? s).map fun p => (String.ofList p.1, p.2)
  | _ => none

/-- What stands before the word in a term for a file. -/
def termStart : String := "kind(\"go_\", same_pkg_direct_rdeps("

/-- What stands after the word in a term for a file. -/
def termEnd : String := "))"

/-- What stands between two terms. -/
def plus : String := " + "

/-- Reads a term for a file: the word in it, and what comes after the term. -/
def term? (s : List Char) : Option (String × List Char) := do
  let s ← Text.afterStart? termStart.toList s
  let (word, s) ← word? s
  let s ← Text.afterStart? termEnd.toList s
  return (word, s)

theorem length_close? {s word rest : List Char} (h : close? s = some (word, rest)) :
    rest.length < s.length := by
  fun_induction close? s generalizing word with
  | case1 s =>
    cases h
    exact Nat.lt_succ_self _
  | case2 c s ih =>
    obtain ⟨p, hp, heq⟩ := Option.map_eq_some_iff.1 h
    cases heq
    have hlt := ih hp
    simp only [List.length_cons]
    omega
  | case3 c s _ _ ih =>
    obtain ⟨p, hp, heq⟩ := Option.map_eq_some_iff.1 h
    cases heq
    have hlt := ih hp
    simp only [List.length_cons]
    omega
  | case4 => cases h

theorem length_word? {s rest : List Char} {word : String} (h : word? s = some (word, rest)) :
    rest.length < s.length := by
  rw [word?.eq_def] at h
  split at h
  · obtain ⟨p, hp, heq⟩ := Option.map_eq_some_iff.1 h
    cases heq
    exact Nat.lt_succ_of_lt (length_close? hp)
  · cases h

theorem length_term? {s rest : List Char} {word : String} (h : term? s = some (word, rest)) :
    rest.length < s.length := by
  obtain ⟨s₁, hstart, h⟩ := Option.bind_eq_some_iff.1 h
  obtain ⟨⟨word', s₂⟩, hword, h⟩ := Option.bind_eq_some_iff.1 h
  obtain ⟨s₃, hend, h⟩ := Option.bind_eq_some_iff.1 h
  cases h
  have hlt := length_word? hword
  rw [Text.afterStart?_eq_some.1 hend] at hlt
  rw [Text.afterStart?_eq_some.1 hstart]
  simp only [List.length_append] at hlt ⊢
  omega

theorem length_next {s rest next : List Char} {word : String} (h : term? s = some (word, rest))
    (hplus : Text.afterStart? plus.toList rest = some next) : next.length < s.length := by
  have hlt := length_term? h
  rw [Text.afterStart?_eq_some.1 hplus, List.length_append] at hlt
  omega

/-- Reads a union of terms: the words in them, in their order. -/
def terms? (s : List Char) : Option (List String) :=
  match h : term? s with
  | none => none
  | some (word, rest) =>
    if rest = [] then some [word]
    else
      match hplus : Text.afterStart? plus.toList rest with
      | none => none
      | some next =>
        have : next.length < s.length := length_next h hplus
        (terms? next).map (word :: ·)
termination_by s.length

/-- Reads a query for files alone. The empty query is one for no files. -/
def files? (query : String) : Option (List String) :=
  if query = "" then some [] else terms? query.toList

/-! ### Words and terms -/

/-- The term for a file that is named from the root of the workspace. -/
def term (word : String) : String :=
  termStart ++ quoted word ++ termEnd

/-- The union of the terms for some files. -/
def union (words : List String) : String :=
  plus.intercalate (words.map term)

theorem close?_escaped (word rest : List Char) :
    close? (word.flatMap escaped ++ '"' :: rest) = some (word, rest) := by
  induction word with
  | nil => rfl
  | cons c word ih =>
    rw [List.flatMap_cons, List.append_assoc, escaped]
    split
    · rw [List.cons_append, List.singleton_append, close?, ih, Option.map_some]
    · next hplain =>
      obtain ⟨hquote, hslash⟩ := not_or.1 hplain
      rw [List.singleton_append, close?, ih, Option.map_some]
      · exact hquote
      · exact fun _ _ h _ => hslash h

/-- **A quoted word is read as the word,** and the reading ends where it does. -/
theorem word?_quoted (word : String) (rest : List Char) :
    word? ((quoted word).toList ++ rest) = some (word, rest) := by
  rw [quoted, String.toList_ofList, List.cons_append, List.cons_append, List.append_assoc,
    List.singleton_append, word?, close?_escaped, Option.map_some, String.ofList_toList]

/-- **A term shows its word,** and where it ends. -/
theorem term?_term (word : String) (rest : List Char) :
    term? ((term word).toList ++ rest) = some (word, rest) := by
  have hstart : Text.afterStart? termStart.toList ((term word).toList ++ rest) =
      some ((quoted word).toList ++ (termEnd.toList ++ rest)) := by
    rw [Text.afterStart?_eq_some, term, String.toList_append, String.toList_append]
    simp only [List.append_assoc]
  have hend : Text.afterStart? termEnd.toList (termEnd.toList ++ rest) = some rest :=
    Text.afterStart?_eq_some.2 rfl
  rw [term?, hstart, Option.bind_eq_bind, Option.bind_some, word?_quoted, Option.bind_eq_bind,
    Option.bind_some]
  simp only [hend]
  rfl

theorem term_inj {word other : String} (h : term word = term other) : word = other := by
  have hword := term?_term word []
  rw [h, term?_term other []] at hword
  exact (Prod.mk.inj (Option.some.inj hword)).1.symm

/-! ### Unions -/

theorem terms?_nil : terms? [] = none := by
  rw [terms?]
  rfl

theorem terms?_last {s : List Char} {word : String} (h : term? s = some (word, [])) :
    terms? s = some [word] := by
  rw [terms?]
  split
  · next hnone => cases h.symm.trans hnone
  · next hsome =>
    cases h.symm.trans hsome
    rfl

theorem terms?_next {s rest : List Char} {word : String}
    (h : term? s = some (word, plus.toList ++ rest)) :
    terms? s = (terms? rest).map (word :: ·) := by
  have hplus : Text.afterStart? plus.toList (plus.toList ++ rest) = some rest :=
    Text.afterStart?_eq_some.2 rfl
  rw [terms?]
  split
  · next hnone => cases h.symm.trans hnone
  · next hsome =>
    cases h.symm.trans hsome
    rw [if_neg (by simp [plus])]
    split
    · next hnone => cases hplus.symm.trans hnone
    · next hsome =>
      cases hplus.symm.trans hsome
      rfl

/-- **A union of terms is split into their words,** in their order. -/
theorem terms?_union (word : String) (words : List String) :
    terms? (union (word :: words)).toList = some (word :: words) := by
  induction words generalizing word with
  | nil =>
    refine terms?_last ?_
    have hterm := term?_term word []
    rwa [List.append_nil] at hterm
  | cons second words ih =>
    have htext : (union (word :: second :: words)).toList =
        (term word).toList ++ (plus.toList ++ (union (second :: words)).toList) := by
      rw [union, union, String.toList_intercalate, String.toList_intercalate]
      simp only [List.map_cons, List.intercalate_cons_cons, List.append_assoc]
    rw [htext, terms?_next (term?_term word _), ih, Option.map_some]

theorem files?_union (words : List String) : files? (union words) = some words := by
  cases words with
  | nil => rfl
  | cons word words =>
    have hne : union (word :: words) ≠ "" := by
      intro hempty
      have hread := terms?_union word words
      rw [hempty, String.toList_empty, terms?_nil] at hread
      cases hread
    rw [files?, if_neg hne, terms?_union]

/-- **A union of terms is a union of no others.** -/
theorem union_inj {words others : List String} (h : union words = union others) :
    words = others := by
  have hwords := files?_union words
  rw [h, files?_union others] at hwords
  exact (Option.some.inj hwords).symm

variable (root : String)

/-- **A query for files is read back as the files,** whatever their names contain. The quoted word
of a file is read as the file seen from the root, and the reading ends where the word and its term
do; so one term is the term of one such path, and a query for files alone is the union of the terms
for these paths, in this order, and for no others. -/
theorem expression_splits :
    (∀ file rest,
        word? ((quoted (Path.relativeTo root file)).toList ++ rest) =
            some (Path.relativeTo root file, rest) ∧
          term? ((fileTerm root file).toList ++ rest) = some (Path.relativeTo root file, rest)) ∧
      (∀ root' file file', fileTerm root file = fileTerm root' file' ↔
        Path.relativeTo root file = Path.relativeTo root' file') ∧
      ∀ files,
        files? (expression root files []) = some (files.map (Path.relativeTo root)) ∧
          ∀ words, expression root files [] = union words ↔
            words = files.map (Path.relativeTo root) := by
  have hunion (files : List String) :
      expression root files [] = union (files.map (Path.relativeTo root)) := by
    rw [expression, union, List.map_map]
    rfl
  refine ⟨fun file rest => ⟨word?_quoted _ rest, term?_term _ rest⟩,
    fun root' file file' => ⟨term_inj, fun h => ?_⟩,
    fun files => ⟨?_, fun words => ⟨fun h => ?_, ?_⟩⟩⟩
  · exact congrArg term h
  · rw [hunion, files?_union]
  · exact union_inj (h.symm.trans (hunion files))
  · rintro rfl
    exact hunion files

end Query
end PackageListing
