/-
# Maps by their look-ups

A key and its value are an entry of a map just where looking up the key gives the value
(`Map.mem_entries_iff`), so maps with the same look-ups are equal (`Map.ext_get?`). A removed key
has no value (`Map.get?_erase`). A map that is made of a list has, under each key, the last value
that the list gives it (`Map.get?_ofList`), so the map of the entries of a map is that map
(`Map.ofList_entries`), and where the values are those of a function, the order of the list does
not matter (`Map.get?_ofList_map`).
-/

import PackageListing.Names.Map
import PackageListing.Proofs.Traversal.Reachability
import Mathlib.Data.List.Induction
import Mathlib.Data.List.Sort

namespace PackageListing
namespace Names

/-- The last member of a list that a test passes. -/
theorem find?_reverse_eq_some_iff {α : Type} {test : α → Bool} {l : List α} {a : α} :
    l.reverse.find? test = some a ↔
      test a = true ∧ ∃ before after, l = before ++ a :: after ∧ ∀ b ∈ after, test b = false := by
  rw [List.find?_eq_some_iff_append]
  refine and_congr_right fun _ => ⟨?_, ?_⟩
  · rintro ⟨after, before, heq, hafter⟩
    refine ⟨before.reverse, after.reverse, ?_, fun b hb => ?_⟩
    · rw [← l.reverse_reverse, heq, List.reverse_append, List.reverse_cons, List.append_assoc]
      rfl
    · exact Bool.not_eq_true' _ ▸ hafter b (List.mem_reverse.1 hb)
  · rintro ⟨before, after, rfl, hafter⟩
    refine ⟨after.reverse, before.reverse, ?_, fun b hb => ?_⟩
    · rw [List.reverse_append, List.reverse_cons, List.append_assoc]
      rfl
    · exact Bool.not_eq_true' _ ▸ hafter b (List.mem_reverse.1 hb)

namespace Map

variable {m n : Map} {key value x : String} {l : List (String × String)}

/-! ### Entries -/

theorem ext_entries (h : m.entries = n.entries) : m = n := by
  cases m
  cases n
  cases h
  rfl

theorem isEmpty_iff : m.isEmpty = true ↔ m = empty := by
  rw [isEmpty, List.isEmpty_iff]
  exact ⟨fun h => ext_entries h, fun h => h ▸ rfl⟩

instance : Std.Irrefl fun a b : String × String => a.1 < b.1 :=
  ⟨fun a => String.lt_irrefl a.1⟩

instance : Std.Antisymm fun a b : String × String => a.1 < b.1 :=
  ⟨fun _ _ h h' => absurd h' (String.lt_asymm h)⟩

theorem nodup_keys (m : Map) : (m.entries.map Prod.fst).Nodup :=
  List.pairwise_map.2 <| m.increasing.imp fun h heq => by
    rw [heq] at h
    exact String.lt_irrefl _ h

/-- **The entries are the keys with their values.** -/
theorem mem_entries_iff : (key, value) ∈ m.entries ↔ m.get? key = some value := by
  rw [get?, List.lookup_eq_some_iff]
  constructor
  · intro h
    obtain ⟨before, after, heq⟩ := List.append_of_mem h
    have hnodup := m.nodup_keys
    rw [heq, List.map_append, List.map_cons] at hnodup
    refine ⟨before, after, heq, fun e he => bne_iff_ne.2 fun hkey => ?_⟩
    exact (List.nodup_append.1 hnodup).2.2 _ (List.mem_map_of_mem he) _ List.mem_cons_self hkey.symm
  · rintro ⟨before, after, heq, -⟩
    rw [heq]
    exact List.mem_append_right _ List.mem_cons_self

theorem mem_values_iff : value ∈ m.values ↔ ∃ key, m.get? key = some value := by
  simp only [values, List.mem_map, ← mem_entries_iff]
  constructor
  · rintro ⟨⟨key, _⟩, hmem, rfl⟩
    exact ⟨key, hmem⟩
  · rintro ⟨key, hmem⟩
    exact ⟨(key, value), hmem, rfl⟩

/-- **The values stand in the order of their keys.** -/
theorem exists_keys_of_values (m : Map) : ∃ keys : List String, keys.Pairwise (· < ·) ∧
    (∀ key, key ∈ keys ↔ ∃ value, m.get? key = some value) ∧
    m.values.map some = keys.map m.get? := by
  refine ⟨m.entries.map Prod.fst, List.pairwise_map.2 m.increasing, fun key => ?_, ?_⟩
  · simp only [List.mem_map, ← mem_entries_iff]
    constructor
    · rintro ⟨⟨_, value⟩, hmem, rfl⟩
      exact ⟨value, hmem⟩
    · rintro ⟨value, hmem⟩
      exact ⟨(key, value), hmem, rfl⟩
  · rw [values, List.map_map, List.map_map]
    exact List.map_congr_left fun e he => (mem_entries_iff.1 he).symm

/-- **Maps with the same look-ups are equal.** -/
theorem ext_get? (h : ∀ x, m.get? x = n.get? x) : m = n :=
  ext_entries <| m.increasing.eq_of_mem_iff n.increasing fun e => by
    rw [← Prod.eta e, mem_entries_iff, mem_entries_iff, h]

/-! ### Removing a key -/

/-- **A removed key has no value,** and every other key the one it had. -/
theorem get?_erase (m : Map) (key x : String) :
    (m.erase key).get? x = if x = key then none else m.get? x :=
  Traversal.lookup_without key x m.entries

/-! ### Maps of lists -/

/-- An entry with a key above all others comes last. -/
theorem insertEntry_of_forall_lt (h : ∀ e ∈ l, e.1 < key) :
    insertEntry key value l = l ++ [(key, value)] := by
  induction l with
  | nil => rfl
  | cons e l ih =>
    obtain ⟨he, hl⟩ := List.forall_mem_cons.1 h
    rw [insertEntry, if_neg (String.lt_asymm he), if_neg (fun heq => String.lt_irrefl _ (heq ▸ he)),
      ih hl]
    rfl

theorem entries_foldl_insert (h : (m.entries ++ l).Pairwise fun a b => a.1 < b.1) :
    (l.foldl (fun m e => m.insert e.1 e.2) m).entries = m.entries ++ l := by
  induction l generalizing m with
  | nil => exact (List.append_nil _).symm
  | cons e l ih =>
    have hlt : ∀ f ∈ m.entries, f.1 < e.1 :=
      fun f hf => (List.pairwise_append.1 h).2.2 f hf e List.mem_cons_self
    have hinsert : (m.insert e.1 e.2).entries = m.entries ++ [e] := insertEntry_of_forall_lt hlt
    rw [List.append_cons, ← hinsert] at h
    rw [List.foldl_cons, ih h, hinsert, List.append_cons m.entries e l]

/-- **A map is the one of its entries.** -/
theorem ofList_entries (m : Map) : ofList m.entries = m :=
  ext_entries (entries_foldl_insert m.increasing)

/-- **The last value of a key counts.** -/
theorem get?_ofList (l : List (String × String)) (x : String) :
    (ofList l).get? x = (l.reverse.find? fun e => e.1 == x).map Prod.snd := by
  induction l using List.reverseRecOn with
  | nil => rfl
  | append_singleton l e ih =>
    rw [ofList, List.foldl_append, List.foldl_cons, List.foldl_nil, ← ofList, get?_insert, ih,
      List.reverse_append, List.reverse_singleton, List.singleton_append, List.find?_cons,
      Bool.beq_comm]
    cases e.1 == x <;> rfl

/-- A list that gives each of some keys the value of a function. -/
theorem get?_ofList_map (f : String → String) (keys : List String) (x : String) :
    (ofList (keys.map fun key => (key, f key))).get? x = if x ∈ keys then some (f x) else none := by
  induction keys using List.reverseRecOn with
  | nil => rfl
  | append_singleton keys key ih =>
    rw [get?_ofList] at ih ⊢
    rw [List.map_append, List.reverse_append, List.map_singleton, List.reverse_singleton,
      List.singleton_append, List.find?_cons]
    by_cases hx : x = key
    · simp [hx]
    · simp [beq_eq_false_iff_ne.2 (Ne.symm hx), ih, hx]

end Map
end Names
end PackageListing
