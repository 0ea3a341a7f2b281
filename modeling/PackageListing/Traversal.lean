/-
# Going through a graph in preorder

A graph is a table of named nodes, of which the first with a name counts; each node names its
successors. The traversal visits the nodes that the given names lead to, each once: first a node,
then what its first successor leads to, then the next. Names without a node lead nowhere. A node
leaves the table when it is visited, so cycles do no harm.
-/

namespace PackageListing
namespace Traversal

/-- The table without the nodes of a name. -/
def without {α : Type} (name : String) (table : List (String × α)) : List (String × α) :=
  table.filter fun e => e.1 != name

theorem length_without_lt {α : Type} {name : String} {table : List (String × α)} {node : α}
    (h : table.lookup name = some node) : (without name table).length < table.length := by
  induction table with
  | nil => simp at h
  | cons e table ih =>
    obtain ⟨key, value⟩ := e
    simp only [without, List.filter_cons]
    by_cases hk : key = name
    · subst hk
      simp only [bne_self_eq_false, Bool.false_eq_true, ↓reduceIte, List.length_cons]
      exact Nat.lt_succ_of_le (List.length_filter_le _ _)
    · have hne : (name == key) = false := by simp [Ne.symm hk]
      simp only [List.lookup_cons, hne] at h
      have := ih h
      simp only [without] at this
      simp only [bne_iff_ne, ne_eq, hk, not_false_eq_true, ↓reduceIte, List.length_cons]
      omega

/-- The nodes that the pending names lead to, in the order of their first visit. -/
def preorder {α : Type} (successors : α → List String) (table : List (String × α))
    (pending : List String) : List α :=
  match pending with
  | [] => []
  | name :: rest =>
    match table.lookup name, @length_without_lt α name table with
    | none, _ => preorder successors table rest
    | some node, hshort =>
      have := hshort rfl
      node :: preorder successors (without name table) (successors node ++ rest)
  termination_by (table.length, pending.length)

end Traversal
end PackageListing
