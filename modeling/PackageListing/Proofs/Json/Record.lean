/-
# Records as objects

A record is written as an object that leaves some of its fields out. What is told of the fields is
a table of names with a value or none (`present`), and an object with the values of a table is
known by them: it has the known fields of a record that has the names of the table
(`fields?_present`), under each name what the table says (`field?_of_some`,
`field?_of_valueUnless`), and it lacks the fields without a value and no others
(`lacks_present_iff`). In any object a field that is not there is read as what stands for it
(`field?_of_lacks`). So where that is the value without which a field is left out, what is left out
is what is read (`Omits.of_table`).
-/

import PackageListing.Proofs.Json.Reader
import Mathlib.Data.List.Nodup

namespace PackageListing
namespace Json

/-! ### Parts of a record -/

/-- What is read of each member is the member that it was written from. -/
theorem mapM_map_eq_some {α β : Type} {l : List α} {f : α → β} {g : β → Option α}
    (h : ∀ a ∈ l, g (f a) = some a) : (l.map f).mapM g = some l := by
  induction l with
  | nil => rfl
  | cons a l ih =>
    obtain ⟨ha, hl⟩ := List.forall_mem_cons.1 h
    rw [List.map_cons, List.mapM_cons, ha, ih hl]
    rfl

theorem list?_map {α : Type} {l : List α} {encode : α → Json} {decode : Json → Option α}
    (h : ∀ a ∈ l, decode (encode a) = some a) : (array (l.map encode)).list? decode = some l :=
  mapM_map_eq_some h

theorem list?_ofStrings (l : List String) : (ofStrings l).list? string? = some l :=
  list?_map fun _ _ => rfl

theorem strings?_ofMembers (l : List (String × String)) :
    (ofMembers (l.map fun e => (e.1, .string e.2))).strings? = some l := by
  rw [ofMembers, List.map_map, strings?]
  exact mapM_map_eq_some fun _ _ => rfl

theorem plain_array_map {α : Type} {l : List α} {encode : α → Json}
    (h : ∀ a ∈ l, Plain (encode a)) : Plain (.array (l.map encode)) :=
  .array (List.forall_mem_map.2 h)

theorem plain_ofStrings (l : List String) : Plain (ofStrings l) :=
  plain_array_map fun s _ => .string s

theorem string?_string (s : String) : (Json.string s).string? = some s := rfl

theorem bool?_bool (b : Bool) : (Json.bool b).bool? = some b := rfl

/-! ### Tables -/

/-- What is told of the fields of a record, by name. -/
abbrev Table := List (String × Option Json)

/-- The members of an object that tells all that a table has. -/
def present (t : Table) : List (String × Json) :=
  t.filterMap fun f => f.2.map fun j => (f.1, j)

/-- The value of a field that is told of unless it is empty. -/
def valueUnless (empty : Bool) (j : Json) : Option Json :=
  if empty then none else some j

theorem valueUnless_eq_none {empty : Bool} {j : Json} :
    valueUnless empty j = none ↔ empty = true := by
  cases empty <;> simp [valueUnless]

theorem plain_of_mem_map {α : Type} {a? : Option α} {encode : α → Json}
    (h : ∀ a, Plain (encode a)) {k : Json} (hk : k ∈ a?.map encode) : Plain k := by
  obtain ⟨a, -, rfl⟩ := Option.map_eq_some_iff.1 hk
  exact h a

theorem plain_of_mem_valueUnless {empty : Bool} {j k : Json} (h : Plain j)
    (hk : k ∈ valueUnless empty j) : Plain k := by
  cases empty <;> cases hk
  exact h

@[simp] theorem present_nil : present [] = [] := rfl

theorem present_cons_some (name : String) (j : Json) (t : Table) :
    present ((name, some j) :: t) = [(name, j)] ++ present t := rfl

theorem present_cons_valueUnless (empty : Bool) (name : String) (j : Json) (t : Table) :
    present ((name, valueUnless empty j) :: t) = memberUnless empty name j ++ present t := by
  cases empty <;> rfl

theorem present_cons_optional (o : Option String) (name : String) (t : Table) :
    present ((name, o.map .string) :: t) =
      memberUnless o.isNone name (.string (o.getD "")) ++ present t := by
  cases o <;> rfl

theorem keys_present_sublist (t : Table) :
    ((present t).map Prod.fst).Sublist (t.map Prod.fst) := by
  induction t with
  | nil => exact .slnil
  | cons f t ih =>
    obtain ⟨name, value?⟩ := f
    cases value? with
    | none => exact ih.cons name
    | some j => exact ih.cons_cons name

theorem mem_present_iff {t : Table} {m : String × Json} :
    m ∈ present t ↔ (m.1, some m.2) ∈ t := by
  simp only [present, List.mem_filterMap, Option.map_eq_some_iff]
  constructor
  · rintro ⟨⟨name, _⟩, hf, j, rfl, rfl⟩
    exact hf
  · exact fun h => ⟨_, h, m.2, rfl, rfl⟩

/-- The values of a table that are plain make a plain object. -/
theorem plain_present {t : Table} (h : ∀ f ∈ t, ∀ j ∈ f.2, Plain j) :
    Plain (ofMembers (present t)) :=
  .object fun m hm => h _ (mem_present_iff.1 hm) m.2 rfl

theorem lookup_present_eq_none {t : Table} {name : String} (h : name ∉ t.map Prod.fst) :
    (present t).lookup name = none := by
  rw [List.lookup_eq_none_iff]
  intro m hm
  rw [bne_iff_ne]
  rintro rfl
  exact h ((keys_present_sublist t).mem (List.mem_map_of_mem hm))

theorem lookup_present {t : Table} (h : (t.map Prod.fst).Nodup) {name : String}
    {value? : Option Json} (hlookup : t.lookup name = some value?) :
    (present t).lookup name = value? := by
  induction t with
  | nil => cases hlookup
  | cons f t ih =>
    obtain ⟨key, told?⟩ := f
    obtain ⟨hkey, ht⟩ := List.nodup_cons.1 h
    rw [List.lookup_cons] at hlookup
    split at hlookup
    · next heq =>
      -- Other fields have other names, so nothing is there if this one has no value.
      cases hlookup
      obtain rfl := eq_of_beq heq
      cases value? with
      | none => exact lookup_present_eq_none (t := t) hkey
      | some j => exact List.lookup_cons_self
    · next hne =>
      cases told? with
      | none => exact ih ht hlookup
      | some j =>
        rw [present_cons_some, List.singleton_append, List.lookup_cons, hne]
        exact ih ht hlookup

/-- The known fields of an object without unknown members are its members. -/
theorem fields?_present {t : Table} (h : (t.map Prod.fst).Nodup) :
    (ofMembers (present t)).fields? (t.map Prod.fst) = some (present t) := by
  have hnamed : (((present t).map fun m => (some m.1, m.2)).mapM fun m : Option String × Json =>
      m.1.map fun key => (key, m.2)) = some (present t) :=
    mapM_map_eq_some fun m _ => rfl
  have hknown : ((present t).filter fun m => (t.map Prod.fst).contains m.1) = present t := by
    refine List.filter_eq_self.2 fun m hm => ?_
    exact List.contains_iff_mem.2 ((keys_present_sublist t).mem (List.mem_map_of_mem hm))
  have hnodup : ((present t).map Prod.fst).Nodup := h.sublist (keys_present_sublist t)
  rw [ofMembers, fields?, hnamed]
  simp only [Option.bind_eq_bind, Option.bind_some, hknown, if_pos hnodup]

theorem field?_present {α : Type} {t : Table} (h : (t.map Prod.fst).Nodup) {name : String}
    {value? : Option Json} (hlookup : t.lookup name = some value?) (fallback : Option α)
    (decode : Json → Option α) :
    field? (present t) name fallback decode = value?.elim fallback decode := by
  rw [field?, lookup_present h hlookup]
  cases value? <;> rfl

/-- **What is told of a field is read.** -/
theorem field?_of_some {α : Type} {t : Table} (h : (t.map Prod.fst).Nodup) {name : String}
    {j : Json} (hlookup : t.lookup name = some (some j)) {decode : Json → Option α} {a : α}
    (hdecode : decode j = some a) (fallback : Option α) :
    field? (present t) name fallback decode = some a := by
  rw [field?_present h hlookup]
  exact hdecode

/-- **What is told of a field unless it is empty is read,** if what stands for the field is the
empty value. -/
theorem field?_of_valueUnless {α : Type} {t : Table} (h : (t.map Prod.fst).Nodup) {name : String}
    {empty : Bool} {j : Json} (hlookup : t.lookup name = some (valueUnless empty j))
    {decode : Json → Option α} {a b : α} (hempty : empty = true → a = b)
    (hdecode : empty = false → decode j = some a) :
    field? (present t) name (some b) decode = some a := by
  rw [field?_present h hlookup]
  cases empty with
  | false => exact hdecode rfl
  | true => exact congrArg some (hempty rfl).symm

theorem field?_text {t : Table} (h : (t.map Prod.fst).Nodup) {name s : String}
    (hlookup : t.lookup name = some (valueUnless s.isEmpty (.string s))) :
    field? (present t) name (some "") string? = some s :=
  field?_of_valueUnless h hlookup String.isEmpty_iff.1 fun _ => string?_string s

theorem field?_list {α : Type} {t : Table} (h : (t.map Prod.fst).Nodup) {name : String} {l : List α}
    {encode : α → Json}
    (hlookup : t.lookup name = some (valueUnless l.isEmpty (.array (l.map encode))))
    {decode : Json → Option α} (hdecode : ∀ a ∈ l, decode (encode a) = some a) :
    field? (present t) name (some []) (list? decode) = some l :=
  field?_of_valueUnless h hlookup List.isEmpty_iff.1 fun _ => list?_map hdecode

theorem field?_optional {α : Type} {t : Table} (h : (t.map Prod.fst).Nodup) {name : String}
    {a? : Option α} {encode : α → Json} (hlookup : t.lookup name = some (a?.map encode))
    {decode : Json → Option α} (hdecode : ∀ a, decode (encode a) = some a)
    (hnull : ∀ a, encode a ≠ .null) :
    field? (present t) name (some none) (optional? decode) = some a? := by
  rw [field?_present h hlookup]
  cases a? with
  | none => rfl
  | some a => 
    change optional? decode (encode a) = some (some a)
    rw [optional?, hdecode]
    · rfl
    · exact hnull a

/-- An object without a member of this name. -/
def Lacks (j : Json) (name : String) : Prop :=
  ∃ l, j = .object l ∧ ∀ m ∈ l, m.1 ≠ some name

/-- **An object lacks the fields of its table that have no value,** and no others. -/
theorem lacks_present_iff {t : Table} (h : (t.map Prod.fst).Nodup) {name : String}
    {value? : Option Json} (hlookup : t.lookup name = some value?) :
    (ofMembers (present t)).Lacks name ↔ value? = none := by
  rw [← lookup_present h hlookup, List.lookup_eq_none_iff]
  constructor
  · rintro ⟨_, hobject, hl⟩ m hm
    cases hobject
    rw [bne_iff_ne]
    rintro rfl
    exact hl _ (List.mem_map_of_mem hm) rfl
  · intro hnone
    refine ⟨_, rfl, fun m hm hname => ?_⟩
    obtain ⟨n, hn, rfl⟩ := List.mem_map.1 hm
    have hne := hnone n hn
    rw [Option.some.inj hname] at hne
    simp at hne

theorem not_lacks_of_some {t : Table} (h : (t.map Prod.fst).Nodup) {name : String} {j : Json}
    (hlookup : t.lookup name = some (some j)) : ¬(ofMembers (present t)).Lacks name := by
  rw [lacks_present_iff h hlookup]
  exact Option.some_ne_none j

/-- All keys denote texts where the members of an object are read with their names. -/
theorem eq_map_of_mapM_keys {l : List (Option String × Json)} {named : List (String × Json)}
    (h : (l.mapM fun m => m.1.map fun key => (key, m.2)) = some named) :
    l = named.map fun m => (some m.1, m.2) := by
  induction l generalizing named with
  | nil =>
    cases h
    rfl
  | cons m l ih =>
    obtain ⟨key?, j⟩ := m
    simp only [List.mapM_cons, Option.bind_eq_bind, Option.bind_eq_some_iff] at h
    obtain ⟨n, hn, more, hmore, heq⟩ := h
    obtain ⟨key, rfl, rfl⟩ := Option.map_eq_some_iff.1 hn
    cases heq
    rw [List.map_cons, ← ih hmore]

theorem mem_of_fields?_object {l : List (Option String × Json)} {names : List String}
    {fields : List (String × Json)} (h : (object l).fields? names = some fields)
    {m : String × Json} (hm : m ∈ fields) : (some m.1, m.2) ∈ l := by
  obtain ⟨named, hnamed, hknown⟩ := Option.bind_eq_some_iff.1 h
  rw [eq_map_of_mapM_keys hnamed]
  simp only at hknown
  split at hknown
  · cases hknown
    exact List.mem_map_of_mem (List.mem_of_mem_filter hm)
  · cases hknown

/-- **A field that an object lacks is read as what stands for it.** -/
theorem field?_of_lacks {α : Type} {j : Json} {name : String} (h : j.Lacks name)
    {names : List String} {fields : List (String × Json)} (hfields : j.fields? names = some fields)
    (fallback : Option α) (decode : Json → Option α) :
    field? fields name fallback decode = fallback := by
  obtain ⟨l, rfl, hl⟩ := h
  have hnone : fields.lookup name = none := by
    rw [List.lookup_eq_none_iff]
    intro m hm
    rw [bne_iff_ne]
    rintro rfl
    exact hl _ (mem_of_fields?_object hfields hm) rfl
  rw [field?, hnone]

/-! ### Fields that are left out -/

/-- A field is left out of the object of a record just where it is empty, and is read as empty
where an object lacks it. -/
structure Omits {α : Type} (encode : α → Json) (decode : Json → Option α) (name : String)
    (Empty : α → Prop) : Prop where
  lacks_iff : ∀ a, (encode a).Lacks name ↔ Empty a
  empty_of_lacks : ∀ {j a}, j.Lacks name → decode j = some a → Empty a

/-- The fields that the objects of records leave out are those of a list. -/
structure Omissions {α : Type} (encode : α → Json) (decode : Json → Option α)
    (names : List String) (l : List (String × (α → Prop))) : Prop where
  mem_of_lacks : ∀ {a name}, name ∈ names → (encode a).Lacks name → name ∈ l.map Prod.fst
  omits : ∀ {f}, f ∈ l → Omits encode decode f.1 f.2

/-- A field that is told of unless it is empty, and for which the empty value stands. -/
theorem Omits.of_table {α β : Type} {encode : α → Json} {decode : Json → Option α}
    {table : α → Table} (hencode : ∀ a, encode a = ofMembers (present (table a)))
    (hnodup : ∀ a, ((table a).map Prod.fst).Nodup) {names : List String}
    {Reads : α → List (String × Json) → Prop}
    (hdecode : ∀ {j a}, decode j = some a →
      ∃ fields, j.fields? names = some fields ∧ Reads a fields)
    {name : String} {value? : α → Option Json}
    (hlookup : ∀ a, (table a).lookup name = some (value? a)) {value : α → β} {empty : β}
    (hempty : ∀ a, value? a = none ↔ value a = empty) {decodeField : Json → Option β}
    (hread : ∀ {a fields}, Reads a fields →
      field? fields name (some empty) decodeField = some (value a)) :
    Omits encode decode name fun a => value a = empty where
  lacks_iff a := by
    rw [hencode, lacks_present_iff (hnodup a) (hlookup a), hempty]
  empty_of_lacks hlacks h := by
    obtain ⟨fields, hfields, hreads⟩ := hdecode h
    have hfield := field?_of_lacks hlacks hfields (some empty) decodeField
    exact Option.some.inj ((hread hreads).symm.trans hfield)

end Json
end PackageListing
