/-
# Sorted names

Lists of names in increasing order without repetition. The order of names is that of their code
points, which is also that of their bytes. `sorted` brings any list into this form:
it has the same members (`mem_sorted`) and is strictly increasing (`sorted_pairwise`).
-/

namespace PackageListing
namespace Names

/-- Puts a name in its place of a strictly increasing list; a name that is there stays single. -/
def insert (a : String) : List String → List String
  | [] => [a]
  | b :: l => if a < b then a :: b :: l else if a = b then b :: l else b :: insert a l

/-- The members of a list in increasing order, each once. -/
def sorted (l : List String) : List String :=
  l.foldr insert []

theorem mem_insert {a x : String} {l : List String} : x ∈ insert a l ↔ x = a ∨ x ∈ l := by
  induction l with
  | nil => simp [insert]
  | cons b l ih =>
    simp only [insert]
    split
    · simp
    · split
      · next h => simp [h]
      · simp only [List.mem_cons, ih]
        exact ⟨fun h => by rcases h with h | h | h <;> simp [h],
          fun h => by rcases h with h | h | h <;> simp [h]⟩

theorem lt_of_not_lt_of_ne {a b : String} (h : ¬a < b) (hne : ¬a = b) : b < a := by
  rcases Std.lt_trichotomy a b with h' | h' | h'
  · exact absurd h' h
  · exact absurd h' hne
  · exact h'

theorem insert_pairwise {a : String} {l : List String} (h : l.Pairwise (· < ·)) :
    (insert a l).Pairwise (· < ·) := by
  induction l with
  | nil => simp [insert]
  | cons b l ih =>
    have hb := List.pairwise_cons.1 h
    simp only [insert]
    split
    · next hab =>
      refine List.pairwise_cons.2 ⟨fun x hx => ?_, h⟩
      rcases List.mem_cons.1 hx with rfl | hx
      · exact hab
      · exact String.lt_trans hab (hb.1 x hx)
    · next hab =>
      split
      · exact h
      · next hne =>
        refine List.pairwise_cons.2 ⟨fun x hx => ?_, ih hb.2⟩
        rcases mem_insert.1 hx with rfl | hx
        · exact lt_of_not_lt_of_ne hab hne
        · exact hb.1 x hx

theorem mem_sorted {x : String} {l : List String} : x ∈ sorted l ↔ x ∈ l := by
  induction l with
  | nil => simp [sorted]
  | cons a l ih =>
    have : sorted (a :: l) = insert a (sorted l) := rfl
    rw [this, mem_insert, ih, List.mem_cons]

theorem sorted_pairwise (l : List String) : (sorted l).Pairwise (· < ·) := by
  induction l with
  | nil => exact List.Pairwise.nil
  | cons a l ih => exact insert_pairwise ih

end Names
end PackageListing
