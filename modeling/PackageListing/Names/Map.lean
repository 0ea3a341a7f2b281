/-
# Maps from names to names

A map is the list of its entries in increasing order of the keys, so that two maps with the same
entries are the same value and the entries come out in one order. `insert` replaces the entry of
its key (`get?_insert`).
-/

import PackageListing.Names.Sorted

namespace PackageListing
namespace Names

/-- A finite map whose keys and values are names. -/
structure Map where
  /-- The entries, one for each key. -/
  entries : List (String × String)
  /-- The keys increase strictly. -/
  increasing : entries.Pairwise fun a b => a.1 < b.1
  deriving DecidableEq

namespace Map

/-- Puts an entry in its place, over the entry that has the same key. -/
def insertEntry (key value : String) : List (String × String) → List (String × String)
  | [] => [(key, value)]
  | e :: l =>
    if key < e.1 then (key, value) :: e :: l
    else if key = e.1 then (key, value) :: l
    else e :: insertEntry key value l

theorem key_mem_insertEntry {key value x : String} {l : List (String × String)}
    (h : x ∈ (insertEntry key value l).map Prod.fst) : x = key ∨ x ∈ l.map Prod.fst := by
  induction l with
  | nil => simpa [insertEntry] using h
  | cons e l ih =>
    simp only [insertEntry] at h
    split at h
    · simpa using h
    · split at h
      · next heq => simp only [List.map_cons, List.mem_cons] at h ⊢; grind
      · simp only [List.map_cons, List.mem_cons] at h ⊢; grind

theorem insertEntry_increasing {key value : String} {l : List (String × String)}
    (h : l.Pairwise fun a b => a.1 < b.1) :
    (insertEntry key value l).Pairwise fun a b => a.1 < b.1 := by
  induction l with
  | nil => simp [insertEntry]
  | cons e l ih =>
    have he := List.pairwise_cons.1 h
    simp only [insertEntry]
    split
    · next hlt =>
      refine List.pairwise_cons.2 ⟨fun x hx => ?_, h⟩
      rcases List.mem_cons.1 hx with rfl | hx
      · exact hlt
      · exact String.lt_trans hlt (he.1 x hx)
    · next hlt =>
      split
      · next heq => exact List.pairwise_cons.2 ⟨fun x hx => heq ▸ he.1 x hx, he.2⟩
      · next hne =>
        refine List.pairwise_cons.2 ⟨fun x hx => ?_, ih he.2⟩
        rcases key_mem_insertEntry (List.mem_map_of_mem hx) with hk | hk
        · exact hk ▸ lt_of_not_lt_of_ne hlt hne
        · obtain ⟨y, hy, hyx⟩ := List.mem_map.1 hk
          exact hyx ▸ he.1 y hy

/-- The map without entries. -/
def empty : Map := ⟨[], List.Pairwise.nil⟩

instance : Inhabited Map := ⟨empty⟩

/-- The map with one more entry, which replaces an entry of the same key. -/
def insert (m : Map) (key value : String) : Map :=
  ⟨insertEntry key value m.entries, insertEntry_increasing m.increasing⟩

/-- The value of a key. -/
def get? (m : Map) (key : String) : Option String :=
  m.entries.lookup key

/-- The map without the entry of a key. -/
def erase (m : Map) (key : String) : Map :=
  ⟨m.entries.filter fun e => e.1 != key, m.increasing.filter _⟩

/-- The entries of a list; of two with the same key the later counts. -/
def ofList (l : List (String × String)) : Map :=
  l.foldl (fun m e => m.insert e.1 e.2) empty

/-- The values in the order of their keys. -/
def values (m : Map) : List String :=
  m.entries.map Prod.snd

/-- Whether the map has no entry. -/
def isEmpty (m : Map) : Bool :=
  m.entries.isEmpty

theorem lookup_insertEntry (key value x : String) (l : List (String × String)) :
    (insertEntry key value l).lookup x = if x == key then some value else l.lookup x := by
  induction l with
  | nil => simp only [insertEntry, List.lookup_cons, List.lookup_nil]; cases x == key <;> simp
  | cons e l ih =>
    obtain ⟨k, v⟩ := e
    simp only [insertEntry]
    split
    · simp only [List.lookup_cons]; cases x == key <;> simp
    · split
      · next heq => subst heq; simp only [List.lookup_cons]; cases x == key <;> simp
      · next hne =>
        simp only [List.lookup_cons, ih]
        cases hx : x == key with
        | false => rfl
        | true =>
          have : (x == k) = false := by
            rw [beq_eq_false_iff_ne, eq_of_beq hx]; exact hne
          simp [this]

/-- **An entry is found under its key and changes no other.** -/
theorem get?_insert (m : Map) (key value x : String) :
    (m.insert key value).get? x = if x == key then some value else m.get? x :=
  lookup_insertEntry key value x m.entries

@[simp] theorem get?_empty (x : String) : empty.get? x = none := rfl

end Map
end Names
end PackageListing
