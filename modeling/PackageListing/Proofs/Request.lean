/-
# Requests as other clients write them

A client may write an empty list or map of a request in one of three ways: leave the field out,
write the empty list or map, or write `null` (`Blank`). What stands for a field that is left out is
its empty value, so the first two ways are read alike. But `null` is no list and no map, and nothing
is read for it (`field?_told`). So a request is read back just where none of its fields is written
as `null` (`decode?_encodeBy`).
-/

import PackageListing.Proofs.Exchange

namespace PackageListing
namespace Request

open Json

/-- How a client writes an empty list or map. -/
inductive Blank where
  | absent
  | empty
  | null
  deriving DecidableEq

/-- What a client tells of a list or map that is written as `j`. -/
def Blank.told (b : Blank) (empty : Bool) (j : Json) : Option Json :=
  if empty then
    match b with
    | .absent => none
    | .empty => some j
    | .null => some .null
  else some j

/-- Whether a client tells `null` of a list or map. -/
def Blank.tellsNull (b : Blank) (empty : Bool) : Bool :=
  empty && b = .null

theorem Blank.mem_told {b : Blank} {empty : Bool} {j k : Json} (h : k ∈ b.told empty j) :
    k = j ∨ k = .null := by
  cases empty with
  | false => exact Or.inl (Option.some.inj h).symm
  | true =>
    cases b with
    | absent => cases h
    | empty => exact Or.inl (Option.some.inj h).symm
    | null => exact Or.inr (Option.some.inj h).symm

/-- **What a client tells of a list or map is read,** unless it tells `null`. -/
theorem field?_told {α : Type} {t : Table} (h : (t.map Prod.fst).Nodup) {name : String}
    {blank : Blank} {empty : Bool} {j : Json} (hlookup : t.lookup name = some (blank.told empty j))
    {decode : Json → Option α} {a b : α} (hempty : empty = true → a = b)
    (hdecode : decode j = some a) (hnull : decode .null = none) :
    field? (present t) name (some b) decode =
      if blank.tellsNull empty then none else some a := by
  rw [field?_present h hlookup]
  cases empty with
  | false => exact hdecode
  | true =>
    cases blank with
    | absent => exact congrArg some (hempty rfl).symm
    | empty => exact hdecode
    | null => exact hnull

/-- How a client writes the lists and the map of a request where they are empty. -/
structure Blanks where
  /-- The environment. -/
  env : Blank
  /-- The flags for the build. -/
  buildFlags : Blank
  /-- The files with other contents. -/
  overlay : Blank
  deriving DecidableEq

/-- What a client tells of a request. -/
def tableBy (b : Blanks) (r : Request) : Table :=
  [("command", r.command.map .string), ("mode", some (.number (some r.mode.bits.toNat))),
    ("env", b.env.told r.env.isEmpty (.ofStrings r.env)),
    ("build_flags", b.buildFlags.told r.buildFlags.isEmpty (.ofStrings r.buildFlags)),
    ("tests", some (.bool r.tests)),
    ("overlay", b.overlay.told r.overlay.isEmpty (Package.encodeMap r.overlay))]

/-- The JSON object that a client writes for a request. -/
def encodeBy (b : Blanks) (r : Request) : Json :=
  ofMembers (present (r.tableBy b))

/-- The text that a client writes for a request. -/
def renderBy (b : Blanks) (r : Request) : String :=
  (r.encodeBy b).render

/-- Whether a client tells `null` of a list or the map of a request. -/
def tellsNull (b : Blanks) (r : Request) : Bool :=
  b.env.tellsNull r.env.isEmpty || b.buildFlags.tellsNull r.buildFlags.isEmpty ||
    b.overlay.tellsNull r.overlay.isEmpty

/-- A client that writes empty lists and maps as such writes the texts that are written here. -/
theorem renderBy_empty (r : Request) : r.renderBy ⟨.empty, .empty, .empty⟩ = r.render := by
  have htold : ∀ (empty : Bool) (j : Json), Blank.empty.told empty j = some j := by
    intro empty j
    cases empty <;> rfl
  rw [renderBy, encodeBy, render, encode_eq, tableBy, table, htold, htold, htold]

theorem nodup_keys_tableBy (b : Blanks) (r : Request) : ((r.tableBy b).map Prod.fst).Nodup := by
  change fieldNames.Nodup
  decide

theorem plain_encodeBy (b : Blanks) (r : Request) : Plain (r.encodeBy b) := by
  have htold : ∀ {blank : Blank} {empty : Bool} {j : Json}, Plain j →
      ∀ k ∈ blank.told empty j, Plain k := by
    intro blank empty j hj k hk
    rcases Blank.mem_told hk with rfl | rfl
    · exact hj
    · exact .null
  refine plain_present ?_
  simp only [tableBy, List.forall_mem_cons, Option.mem_some_iff, forall_eq']
  exact ⟨fun _ => plain_of_mem_map .string, .integer _, htold (plain_ofStrings _),
    htold (plain_ofStrings _), .bool _, htold (Package.plain_encodeMap _), List.forall_mem_nil _⟩

/-- A request that is told without `null` is read field by field. -/
theorem reads_tableBy {b : Blanks} {r : Request} (h : r.tellsNull b = false) :
    r.Reads (present (r.tableBy b)) := by
  simp only [tellsNull, Bool.or_eq_false_iff] at h
  obtain ⟨⟨henv, hflags⟩, hoverlay⟩ := h
  have hnodup := r.nodup_keys_tableBy b
  exact {
    command := field?_optional hnodup rfl string?_string fun _ h => nomatch h
    mode := field?_of_some hnodup rfl (by rw [word?_toNat]; rfl) _
    env := by
      rw [field?_told hnodup rfl List.isEmpty_iff.1 (list?_ofStrings _) rfl, henv]
      rfl
    buildFlags := by
      rw [field?_told hnodup rfl List.isEmpty_iff.1 (list?_ofStrings _) rfl, hflags]
      rfl
    tests := field?_of_some hnodup rfl (bool?_bool _) _
    overlay := by
      rw [field?_told hnodup rfl Names.Map.isEmpty_iff.1 (Package.decodeMap?_encodeMap _) rfl,
        hoverlay]
      rfl }

/-- Nothing is read from what a client tells with `null`. -/
theorem not_reads_tableBy {b : Blanks} {r : Request} (h : r.tellsNull b = true) (r' : Request) :
    ¬r'.Reads (present (r.tableBy b)) := by
  intro hreads
  have hnodup := r.nodup_keys_tableBy b
  simp only [tellsNull, Bool.or_eq_true] at h
  rcases h with (henv | hflags) | hoverlay
  · have hread := hreads.env
    rw [field?_told hnodup rfl List.isEmpty_iff.1 (list?_ofStrings r.env) rfl, henv] at hread
    cases hread
  · have hread := hreads.buildFlags
    rw [field?_told hnodup rfl List.isEmpty_iff.1 (list?_ofStrings r.buildFlags) rfl, hflags]
      at hread
    cases hread
  · have hread := hreads.overlay
    rw [field?_told hnodup rfl Names.Map.isEmpty_iff.1 (Package.decodeMap?_encodeMap r.overlay) rfl,
      hoverlay] at hread
    cases hread

/-- **A request is read back unless something of it is told as `null`.** -/
theorem decode?_encodeBy (b : Blanks) (r : Request) :
    decode? (r.encodeBy b) = if r.tellsNull b then none else some r := by
  have hfields : (r.encodeBy b).fields? fieldNames = some (present (r.tableBy b)) :=
    fields?_present (r.nodup_keys_tableBy b)
  split
  · next h =>
    refine Option.eq_none_iff_forall_ne_some.2 fun r' hr' => ?_
    obtain ⟨fields, hfields', hreads⟩ := decode?_eq_some_iff.1 hr'
    cases hfields.symm.trans hfields'
    exact not_reads_tableBy h r' hreads
  · next h =>
    exact decode?_eq_some_iff.2 ⟨_, hfields, reads_tableBy (Bool.eq_false_iff.2 h)⟩

/-- **The text that a client writes for a request is read as that request just where no empty list
or map is written as `null`.** So a field may be left out or written as an empty list or map, as
the texts that are written here have it. But where a client writes one as `null`, nothing is
read. -/
theorem read_unless_null (b : Blanks) (r : Request) :
    r.renderBy ⟨.empty, .empty, .empty⟩ = r.render ∧
      (Json.ofString? (r.renderBy b)).bind decode? = if r.tellsNull b then none else some r := by
  refine ⟨r.renderBy_empty, ?_⟩
  rw [renderBy, (r.plain_encodeBy b).ofString?_render, Option.bind_some, decode?_encodeBy]

/-- A request without flags, environment or overlay, all of them written as `null`, is not read. -/
theorem not_read_null :
    ¬∀ (b : Blanks) (r : Request), (Json.ofString? (r.renderBy b)).bind decode? = some r := by
  intro h
  let r : Request := ⟨none, ⟨1⟩, [], [], false, .empty⟩
  have hread := h ⟨.null, .null, .null⟩ r
  rw [renderBy, (r.plain_encodeBy _).ofString?_render, Option.bind_some, decode?_encodeBy] at hread
  cases hread

end Request
end PackageListing
