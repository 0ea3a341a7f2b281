/-
# What a traversal meets

The node of a name leads to the names of its successors, and on from there (`Leads`). A traversal
takes a node out of the table when it visits it, so all that it meets later lies in a smaller
table. Nothing is lost by that: a way through the table either avoids the name that was taken out
or may as well begin at a successor of its node (`Leads.without_or`). So a traversal meets the
nodes that the pending names lead to and no others (`mem_preorder_iff`), whatever circles, shared
successors or names without a node the table has.
-/

import Mathlib.Logic.Relation
import PackageListing.Traversal

namespace PackageListing
namespace Traversal

variable {α : Type} {successors : α → List String} {table : List (String × α)}

/-- The node of `a` has `b` among its successors. -/
def Edge (successors : α → List String) (table : List (String × α)) (a b : String) : Prop :=
  ∃ node, table.lookup a = some node ∧ b ∈ successors node

/-- A way from `a` to `b` along successors. Every name on it but the last has a node. -/
def Leads (successors : α → List String) (table : List (String × α)) : String → String → Prop :=
  Relation.ReflTransGen (Edge successors table)

/-! ### Tables without a name -/

theorem lookup_without (name x : String) (table : List (String × α)) :
    (without name table).lookup x = if x = name then none else table.lookup x := by
  induction table with
  | nil => simp [without]
  | cons e table ih =>
    obtain ⟨key, value⟩ := e
    rw [without] at ih ⊢
    rw [List.filter_cons]
    by_cases hk : key = name
    · rw [if_neg (by simp [hk]), ih, List.lookup_cons]
      by_cases hx : x = name
      · rw [if_pos hx, if_pos hx]
      · have hne : (x == key) = false := beq_eq_false_iff_ne.2 (hk ▸ hx)
        rw [if_neg hx, if_neg hx, hne]
    · rw [if_pos (by simp [hk]), List.lookup_cons, List.lookup_cons, ih]
      by_cases hx : x = key
      · have hname : x ≠ name := hx ▸ hk
        simp [hx, hk]
      · have hne : (x == key) = false := beq_eq_false_iff_ne.2 hx
        rw [hne]

theorem lookup_of_lookup_without {name x : String} {node : α}
    (h : (without name table).lookup x = some node) : table.lookup x = some node := by
  rw [lookup_without] at h
  split at h
  · cases h
  · exact h

/-! ### Ways through a table -/

theorem Edge.of_without {name a b : String} (h : Edge successors (without name table) a b) :
    Edge successors table a b := by
  obtain ⟨node, hnode, hb⟩ := h
  exact ⟨node, lookup_of_lookup_without hnode, hb⟩

theorem Edge.without {name a b : String} (h : Edge successors table a b) (hne : a ≠ name) :
    Edge successors (without name table) a b := by
  obtain ⟨node, hnode, hb⟩ := h
  exact ⟨node, by rw [lookup_without, if_neg hne, hnode], hb⟩

theorem Leads.of_without {name a b : String} (h : Leads successors (without name table) a b) :
    Leads successors table a b :=
  h.lift id fun _ _ => Edge.of_without

/-- Ways that begin at a name without a node end there. -/
theorem Leads.eq_of_lookup_eq_none {a b : String} (h : Leads successors table a b)
    (ha : table.lookup a = none) : b = a := by
  rcases Relation.ReflTransGen.cases_head h with hab | ⟨c, ⟨node, hnode, _⟩, _⟩
  · exact hab.symm
  · rw [ha] at hnode
    cases hnode

/-- **A way avoids a name or may begin behind it.** From its last visit of `name` on, a way does
not need the node of `name` any more. -/
theorem Leads.without_or {name a b : String} {node : α} (h : Leads successors table a b)
    (hnode : table.lookup name = some node) (hb : b ≠ name) :
    (a ≠ name ∧ Leads successors (without name table) a b) ∨
      ∃ c ∈ successors node, Leads successors (without name table) c b := by
  induction h using Relation.ReflTransGen.head_induction_on with
  | refl => exact Or.inl ⟨hb, Relation.ReflTransGen.refl⟩
  | @head a c hac _ ih =>
    rcases ih with ⟨_, hcb⟩ | hafter
    · by_cases ha : a = name
      · obtain ⟨node', hnode', hc⟩ := hac
        rw [ha, hnode] at hnode'
        obtain rfl := Option.some.inj hnode'
        exact Or.inr ⟨c, hc, hcb⟩
      · exact Or.inl ⟨ha, Relation.ReflTransGen.head (hac.without ha) hcb⟩
    · exact Or.inr hafter

/-! ### The traversal -/

theorem preorder_nil : preorder successors table [] = [] := by
  rw [preorder]

theorem preorder_of_lookup_eq_none {name : String} (rest : List String)
    (h : table.lookup name = none) :
    preorder successors table (name :: rest) = preorder successors table rest := by
  rw [preorder]
  split
  · rfl
  · next node hnode _ => rw [h] at hnode; cases hnode

theorem preorder_of_lookup_eq_some {name : String} {node : α} (rest : List String)
    (h : table.lookup name = some node) :
    preorder successors table (name :: rest) =
      node :: preorder successors (without name table) (successors node ++ rest) := by
  rw [preorder]
  split
  · next hnone _ => rw [h] at hnone; cases hnone
  · next node' hnode' _ =>
    rw [h] at hnode'
    obtain rfl := Option.some.inj hnode'
    rfl

/-- What the pending names lead to: one of them has a way to the name of the node. -/
def Met (successors : α → List String) (table : List (String × α)) (pending : List String)
    (node : α) : Prop :=
  ∃ root ∈ pending, ∃ name, Leads successors table root name ∧ table.lookup name = some node

theorem met_cons_of_lookup_eq_none {name : String} {rest : List String} {node : α}
    (h : table.lookup name = none) :
    Met successors table (name :: rest) node ↔ Met successors table rest node := by
  constructor
  · rintro ⟨root, hroot, x, hx, hnode⟩
    rcases List.mem_cons.1 hroot with rfl | hroot
    · rw [hx.eq_of_lookup_eq_none h, h] at hnode
      cases hnode
    · exact ⟨root, hroot, x, hx, hnode⟩
  · rintro ⟨root, hroot, hmet⟩
    exact ⟨root, List.mem_cons_of_mem _ hroot, hmet⟩

/-- One visit: what the pending names lead to is the node of the first of them and what its
successors and the other names lead to in the rest of the table. -/
theorem met_cons_of_lookup_eq_some {name : String} {rest : List String} {visited node : α}
    (h : table.lookup name = some visited) :
    Met successors table (name :: rest) node ↔
      node = visited ∨ Met successors (without name table) (successors visited ++ rest) node := by
  constructor
  · rintro ⟨root, hroot, x, hx, hnode⟩
    by_cases hxn : x = name
    · rw [hxn, h] at hnode
      exact Or.inl (Option.some.inj hnode).symm
    · have hnode' : (without name table).lookup x = some node := by
        rw [lookup_without, if_neg hxn, hnode]
      rcases hx.without_or h hxn with ⟨hne, hway⟩ | ⟨c, hc, hway⟩
      · have hmem : root ∈ rest := List.mem_of_ne_of_mem hne hroot
        exact Or.inr ⟨root, List.mem_append_right _ hmem, x, hway, hnode'⟩
      · exact Or.inr ⟨c, List.mem_append_left _ hc, x, hway, hnode'⟩
  · rintro (rfl | ⟨root, hroot, x, hx, hnode⟩)
    · exact ⟨name, List.mem_cons_self, name, Relation.ReflTransGen.refl, h⟩
    · have hnode' := lookup_of_lookup_without hnode
      rcases List.mem_append.1 hroot with hroot | hroot
      · exact ⟨name, List.mem_cons_self, x,
          Relation.ReflTransGen.head ⟨visited, h, hroot⟩ hx.of_without, hnode'⟩
      · exact ⟨root, List.mem_cons_of_mem _ hroot, x, hx.of_without, hnode'⟩

/-- **A traversal meets what the pending names lead to,** and nothing else. -/
theorem mem_preorder_iff {pending : List String} {node : α} :
    node ∈ preorder successors table pending ↔ Met successors table pending node := by
  induction table, pending using preorder.induct successors with
  | case1 table => simp [preorder_nil, Met]
  | case2 table name rest _ h ih =>
    rw [preorder_of_lookup_eq_none rest h, ih, met_cons_of_lookup_eq_none h]
  | case3 table name rest visited _ h _ ih =>
    rw [preorder_of_lookup_eq_some rest h, List.mem_cons, ih, met_cons_of_lookup_eq_some h]

end Traversal
end PackageListing
