/-
# Traversals are depth-first searches

The recursive depth-first search (`search`) goes through some names in their order. It skips a
name that was seen before or that has no node; else it visits the node, searches its successors,
and goes on with all of that seen. A traversal keeps no account of what was seen. It takes the
nodes that it visits out of the table, and its pending names are what the open calls of the search
have still to do (`preorder_remaining`). Both visit the same nodes in the same order
(`preorder_eq_search`), and no name twice (`nodup_search`).
-/

import Mathlib.Data.List.Basic
import PackageListing.Proofs.Traversal.Reachability

namespace PackageListing
namespace Traversal

variable {α : Type} {successors : α → List String} {table : List (String × α)}

/-- The part of a table that has not been seen. -/
def remaining (seen : List String) (table : List (String × α)) : List (String × α) :=
  table.filter fun e => e.1 ∉ seen

@[simp] theorem remaining_nil (table : List (String × α)) : remaining [] table = table := by
  simp [remaining]

/-- It does not matter in which order names were seen. -/
theorem remaining_congr {seen seen' : List String} (h : ∀ x, x ∈ seen ↔ x ∈ seen')
    (table : List (String × α)) : remaining seen table = remaining seen' table := by
  refine List.filter_congr fun e _ => ?_
  rw [decide_eq_decide, h]

theorem without_remaining (name : String) (seen : List String) (table : List (String × α)) :
    without name (remaining seen table) = remaining (name :: seen) table := by
  rw [without, remaining, remaining, List.filter_filter]
  refine List.filter_congr fun e _ => ?_
  rw [Bool.eq_iff_iff]
  simp

theorem lookup_remaining (seen : List String) (table : List (String × α)) (x : String) :
    (remaining seen table).lookup x = if x ∈ seen then none else table.lookup x := by
  induction seen with
  | nil => simp
  | cons name seen ih =>
    rw [← without_remaining, lookup_without, ih]
    by_cases hx : x = name
    · simp [hx]
    · simp [hx]

theorem length_remaining_append_le (more seen : List String) (table : List (String × α)) :
    (remaining (more ++ seen) table).length ≤ (remaining seen table).length := by
  refine (List.monotone_filter_right table fun e he => ?_).length_le
  rw [decide_eq_true_eq] at he ⊢
  exact fun hseen => he (List.mem_append_right more hseen)

/-- With every visit less of the table remains. -/
theorem length_remaining_lt {name : String} {seen : List String} {node : α}
    (hseen : name ∉ seen) (hnode : table.lookup name = some node) (more : List String) :
    (remaining (more ++ name :: seen) table).length < (remaining seen table).length := by
  have hlookup : (remaining seen table).lookup name = some node := by
    rw [lookup_remaining, if_neg hseen, hnode]
  calc (remaining (more ++ name :: seen) table).length
      ≤ (remaining (name :: seen) table).length := length_remaining_append_le more _ table
    _ = (without name (remaining seen table)).length := by rw [without_remaining]
    _ < (remaining seen table).length := length_without_lt hlookup

/-- Depth-first search: the nodes that `names` lead to past those seen, under their names and in
the order of their visits. -/
def search (successors : α → List String) (table : List (String × α)) (seen names : List String) :
    List (String × α) :=
  match names with
  | [] => []
  | name :: rest =>
    if hseen : name ∈ seen then search successors table seen rest
    else
      match hnode : table.lookup name with
      | none => search successors table seen rest
      | some node =>
        have := length_remaining_lt hseen hnode
        let inner := search successors table (name :: seen) (successors node)
        (name, node) :: (inner ++
          search successors table (inner.map Prod.fst ++ name :: seen) rest)
  termination_by ((remaining seen table).length, names.length)
  decreasing_by
    · exact Prod.Lex.right _ (Nat.lt_succ_self _)
    · exact Prod.Lex.right _ (Nat.lt_succ_self _)
    · exact Prod.Lex.left _ _ (this [])
    · exact Prod.Lex.left _ _ (this _)

theorem search_nil (seen : List String) : search successors table seen [] = [] := by
  rw [search]

theorem search_of_mem {name : String} {seen : List String} (rest : List String)
    (h : name ∈ seen) :
    search successors table seen (name :: rest) = search successors table seen rest := by
  rw [search, dif_pos h]

theorem search_of_lookup_eq_none {name : String} (seen rest : List String)
    (h : table.lookup name = none) :
    search successors table seen (name :: rest) = search successors table seen rest := by
  rw [search]
  split
  · rfl
  · split
    · rfl
    · next node hnode => rw [h] at hnode; cases hnode

theorem search_of_lookup_eq_some {name : String} {seen : List String} {node : α}
    (rest : List String) (hseen : name ∉ seen) (h : table.lookup name = some node) :
    search successors table seen (name :: rest) =
      (name, node) :: (search successors table (name :: seen) (successors node) ++
        search successors table
          ((search successors table (name :: seen) (successors node)).map Prod.fst ++
            name :: seen) rest) := by
  rw [search, dif_neg hseen]
  split
  · next hnone => rw [h] at hnone; cases hnone
  · next node' hnode =>
    rw [h] at hnode
    obtain rfl := Option.some.inj hnode
    rfl

/-- **A traversal does what a search does, and then what else is pending.** The search is over
when the pending names behind its own are on top again. -/
theorem preorder_remaining (seen names others : List String) :
    preorder successors (remaining seen table) (names ++ others) =
      (search successors table seen names).map Prod.snd ++
        preorder successors
          (remaining ((search successors table seen names).map Prod.fst ++ seen) table) others := by
  induction seen, names using search.induct successors table generalizing others with
  | case1 seen => rw [search_nil, List.map_nil, List.map_nil, List.nil_append, List.nil_append,
      List.nil_append]
  | case2 seen name rest h ih =>
    have hlookup : (remaining seen table).lookup name = none := by
      rw [lookup_remaining, if_pos h]
    rw [List.cons_append, preorder_of_lookup_eq_none _ hlookup, search_of_mem rest h, ih]
  | case3 seen name rest h hnode ih =>
    have hlookup : (remaining seen table).lookup name = none := by
      rw [lookup_remaining, if_neg h, hnode]
    rw [List.cons_append, preorder_of_lookup_eq_none _ hlookup,
      search_of_lookup_eq_none seen rest hnode, ih]
  | case4 seen name rest h node hnode _ inner ihinner ihouter =>
    have hlookup : (remaining seen table).lookup name = some node := by
      rw [lookup_remaining, if_neg h, hnode]
    let outer := search successors table (inner.map Prod.fst ++ name :: seen) rest
    -- The name, what the search inside saw and what the search after it saw have been seen; the
    -- two sides list them in different orders.
    have hseen : remaining (outer.map Prod.fst ++ (inner.map Prod.fst ++ name :: seen)) table =
        remaining (((name, node) :: (inner ++ outer)).map Prod.fst ++ seen) table := by
      refine remaining_congr (fun x => ?_) table
      simp only [List.map_cons, List.map_append, List.mem_append, List.mem_cons, List.cons_append]
      grind
    rw [List.cons_append, preorder_of_lookup_eq_some _ hlookup, without_remaining, ihinner,
      ihouter, hseen, search_of_lookup_eq_some rest h hnode]
    simp only [inner, outer, List.map_cons, List.map_append, List.cons_append, List.append_assoc]

/-- **A traversal visits what a depth-first search visits, in the same order.** -/
theorem preorder_eq_search (names : List String) :
    preorder successors table names = (search successors table [] names).map Prod.snd := by
  calc preorder successors table names
      = preorder successors (remaining [] table) (names ++ []) := by
        rw [remaining_nil, List.append_nil]
    _ = (search successors table [] names).map Prod.snd := by
        rw [preorder_remaining, preorder_nil, List.append_nil]

/-- What a search visits stands in the table under its name and was not seen before. -/
theorem lookup_of_mem_search {seen names : List String} {e : String × α}
    (h : e ∈ search successors table seen names) :
    e.1 ∉ seen ∧ table.lookup e.1 = some e.2 := by
  induction seen, names using search.induct successors table with
  | case1 seen => rw [search_nil] at h; cases h
  | case2 seen name rest hseen ih => exact ih (search_of_mem rest hseen ▸ h)
  | case3 seen name rest hseen hnode ih => exact ih (search_of_lookup_eq_none seen rest hnode ▸ h)
  | case4 seen name rest hseen node hnode _ inner ihinner ihouter =>
    rw [search_of_lookup_eq_some rest hseen hnode, List.mem_cons, List.mem_append] at h
    rcases h with rfl | h | h
    · exact ⟨hseen, hnode⟩
    · obtain ⟨hnot, hlookup⟩ := ihinner h
      exact ⟨fun hmem => hnot (List.mem_cons_of_mem _ hmem), hlookup⟩
    · obtain ⟨hnot, hlookup⟩ := ihouter h
      exact ⟨fun hmem => hnot (List.mem_append_right _ (List.mem_cons_of_mem _ hmem)), hlookup⟩

/-- **A search visits no name twice.** -/
theorem nodup_search (seen names : List String) :
    ((search successors table seen names).map Prod.fst).Nodup := by
  induction seen, names using search.induct successors table with
  | case1 seen => rw [search_nil]; exact List.nodup_nil
  | case2 seen name rest hseen ih => rw [search_of_mem rest hseen]; exact ih
  | case3 seen name rest hseen hnode ih => rw [search_of_lookup_eq_none seen rest hnode]; exact ih
  | case4 seen name rest hseen node hnode _ inner ihinner ihouter =>
    have hfresh : ∀ {more names : List String} {x : String},
        x ∈ (search successors table more names).map Prod.fst → x ∉ more := by
      intro more names x hx
      obtain ⟨e, he, rfl⟩ := List.mem_map.1 hx
      exact (lookup_of_mem_search he).1
    rw [search_of_lookup_eq_some rest hseen hnode, List.map_cons, List.map_append,
      List.nodup_cons, List.nodup_append]
    refine ⟨fun hmem => ?_, ihinner, ihouter, fun x hx y hy hxy => ?_⟩
    · rcases List.mem_append.1 hmem with hmem | hmem
      · exact hfresh hmem List.mem_cons_self
      · exact hfresh hmem (List.mem_append_right _ List.mem_cons_self)
    · exact hfresh hy (List.mem_append_left _ (hxy ▸ hx))

end Traversal
end PackageListing
