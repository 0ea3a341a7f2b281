/-
# Requests and responses, written and read

A client writes a request and reads the response, and both are read back as they were written
(`Request.decode?_encode`, `Response.decode?_encode`), the numbers of 64 bits in them, too. A
command that is not there is left out of a request, and sizes and roots that are not there out of
a response (`Request.omissions`, `Response.omissions`).
-/

import PackageListing.Proofs.Package
import PackageListing.Request
import PackageListing.Response

namespace PackageListing

open Json

/-! ### Requests -/

namespace Request

/-- What the object of a request tells. -/
def table (r : Request) : Table :=
  [("command", r.command.map .string), ("mode", some (.number (some r.mode.bits.toNat))),
    ("env", some (.ofStrings r.env)), ("build_flags", some (.ofStrings r.buildFlags)),
    ("tests", some (.bool r.tests)), ("overlay", some (Package.encodeMap r.overlay))]

theorem encode_eq (r : Request) : r.encode = ofMembers (present r.table) := by
  rw [encode, table, present_cons_optional]
  rfl

theorem nodup_keys_table (r : Request) : (r.table.map Prod.fst).Nodup := by
  change fieldNames.Nodup
  decide

theorem plain_encode (r : Request) : Plain r.encode := by
  rw [encode_eq]
  refine plain_present ?_
  simp only [table, List.forall_mem_cons, Option.mem_some_iff, forall_eq']
  exact ⟨fun _ => plain_of_mem_map .string, .integer _, plain_ofStrings _, plain_ofStrings _,
    .bool _, Package.plain_encodeMap _, List.forall_mem_nil _⟩

theorem word?_toNat (n : UInt64) : (Json.number (some n.toNat)).word? = some n := by
  have hlt : 0 ≤ (n.toNat : Int) ∧ (n.toNat : Int).toNat < UInt64.size :=
    ⟨Int.natCast_nonneg _, n.toNat_lt_size⟩
  rw [word?, if_pos hlt, Int.toNat_natCast, UInt64.ofNat_toNat]

/-- What the known fields of an object say of a request. -/
structure Reads (r : Request) (fields : List (String × Json)) : Prop where
  command : field? fields "command" (some none) (optional? string?) = some r.command
  mode : field? fields "mode" (some ⟨0⟩) (fun j => j.word?.map LoadMode.mk) = some r.mode
  env : field? fields "env" (some []) (list? string?) = some r.env
  buildFlags : field? fields "build_flags" (some []) (list? string?) = some r.buildFlags
  tests : field? fields "tests" (some false) bool? = some r.tests
  overlay : field? fields "overlay" (some .empty) Package.decodeMap? = some r.overlay

/-- **A request is read field by field.** -/
theorem decode?_eq_some_iff {j : Json} {r : Request} :
    decode? j = some r ↔ ∃ fields, j.fields? fieldNames = some fields ∧ r.Reads fields := by
  simp only [decode?, Option.bind_eq_bind, Option.bind_eq_some_iff, Option.pure_def,
    Option.some.injEq]
  constructor
  · rintro ⟨fields, hfields, _, h1, _, h2, _, h3, _, h4, _, h5, _, h6, rfl⟩
    exact ⟨fields, hfields, h1, h2, h3, h4, h5, h6⟩
  · rintro ⟨fields, hfields, h1, h2, h3, h4, h5, h6⟩
    exact ⟨fields, hfields, _, h1, _, h2, _, h3, _, h4, _, h5, _, h6, rfl⟩

theorem reads_table (r : Request) : r.Reads (present r.table) where
  command := field?_optional r.nodup_keys_table rfl string?_string fun _ h => nomatch h
  mode := field?_of_some r.nodup_keys_table rfl (by rw [word?_toNat]; rfl) _
  env := field?_of_some r.nodup_keys_table rfl (list?_ofStrings _) _
  buildFlags := field?_of_some r.nodup_keys_table rfl (list?_ofStrings _) _
  tests := field?_of_some r.nodup_keys_table rfl (bool?_bool _) _
  overlay := field?_of_some r.nodup_keys_table rfl (Package.decodeMap?_encodeMap _) _

/-- **A request is read back** as it was. -/
theorem decode?_encode (r : Request) : decode? r.encode = some r := by
  rw [decode?_eq_some_iff, encode_eq]
  exact ⟨_, fields?_present r.nodup_keys_table, r.reads_table⟩

/-- The fields that are left out when they are empty, and what it is for them to be empty. -/
def omissible : List (String × (Request → Prop)) :=
  [("command", (·.command = none))]

theorem mem_omissible_of_lacks {r : Request} {name : String} (hname : name ∈ fieldNames)
    (h : r.encode.Lacks name) : name ∈ omissible.map Prod.fst := by
  rw [encode_eq] at h
  simp only [fieldNames, List.mem_cons, List.not_mem_nil, or_false] at hname
  rcases hname with rfl | rfl | rfl | rfl | rfl | rfl
  · exact List.mem_cons_self
  all_goals exact absurd h (not_lacks_of_some r.nodup_keys_table rfl)

/-- **What is left out of a request is what is read** where nothing is there. -/
theorem omissions : Omissions encode decode? fieldNames omissible where
  mem_of_lacks := mem_omissible_of_lacks
  omits hf := by
    obtain rfl := List.mem_singleton.1 hf
    exact .of_table encode_eq nodup_keys_table decode?_eq_some_iff.1 (fun _ => rfl)
      (fun _ => Option.map_eq_none_iff) Reads.command

end Request

/-! ### Responses -/

namespace Sizes

/-- What the object of sizes tells. -/
def table (s : Sizes) : Table :=
  [("WordSize", some (.number s.wordSize.toInt)), ("MaxAlign", some (.number s.maxAlign.toInt))]

theorem encode_eq (s : Sizes) : s.encode = ofMembers (present s.table) := rfl

theorem nodup_keys_table (s : Sizes) : (s.table.map Prod.fst).Nodup := by
  change fieldNames.Nodup
  decide

theorem plain_encode (s : Sizes) : Plain s.encode := by
  rw [encode_eq]
  refine plain_present ?_
  simp only [table, List.forall_mem_cons, Option.mem_some_iff, forall_eq']
  exact ⟨.integer _, .integer _, List.forall_mem_nil _⟩

theorem size?_toInt (n : Int64) : size? (.number n.toInt) = some n := by
  rw [size?, integer?, if_pos ⟨Int64.minValue_le_toInt n, Int64.toInt_le n⟩]
  exact congrArg some (Int64.ofInt_toInt n)

/-- **Sizes are read back** as they were. -/
theorem decode?_encode (s : Sizes) : decode? s.encode = some s := by
  have hnodup := nodup_keys_table s
  have hfields : s.encode.fields? fieldNames = some (present s.table) := fields?_present hnodup
  rw [decode?, hfields]
  simp only [Option.bind_eq_bind, Option.bind_some]
  rw [field?_of_some hnodup rfl (size?_toInt s.wordSize),
    field?_of_some hnodup rfl (size?_toInt s.maxAlign)]
  rfl

end Sizes

namespace Response

/-- What the object of a response tells. -/
def table (r : Response) : Table :=
  [("Sizes", r.sizes.map Sizes.encode), ("Roots", valueUnless r.roots.isEmpty (.ofStrings r.roots)),
    ("Packages", some (.array (r.packages.map Package.encode)))]

theorem encode_eq (r : Response) : r.encode = ofMembers (present r.table) := by
  obtain ⟨sizes, roots, packages⟩ := r
  cases sizes <;> cases roots <;> rfl

theorem nodup_keys_table (r : Response) : (r.table.map Prod.fst).Nodup := by
  change fieldNames.Nodup
  decide

theorem plain_encode (r : Response) : Plain r.encode := by
  have hpackages : Plain (.array (r.packages.map Package.encode)) :=
    plain_array_map fun p _ => p.plain_encode
  rw [encode_eq]
  refine plain_present ?_
  simp only [table, List.forall_mem_cons, Option.mem_some_iff, forall_eq']
  exact ⟨fun _ => plain_of_mem_map Sizes.plain_encode,
    fun _ => plain_of_mem_valueUnless (plain_ofStrings _), hpackages, List.forall_mem_nil _⟩

/-- What the known fields of an object say of a response. -/
structure Reads (r : Response) (fields : List (String × Json)) : Prop where
  sizes : field? fields "Sizes" (some none) (optional? Sizes.decode?) = some r.sizes
  roots : field? fields "Roots" (some []) (list? string?) = some r.roots
  packages : field? fields "Packages" (some []) (list? Package.decode?) = some r.packages

/-- **A response is read field by field.** -/
theorem decode?_eq_some_iff {j : Json} {r : Response} :
    decode? j = some r ↔ ∃ fields, j.fields? fieldNames = some fields ∧ r.Reads fields := by
  simp only [decode?, Option.bind_eq_bind, Option.bind_eq_some_iff, Option.pure_def,
    Option.some.injEq]
  constructor
  · rintro ⟨fields, hfields, _, h1, _, h2, _, h3, rfl⟩
    exact ⟨fields, hfields, h1, h2, h3⟩
  · rintro ⟨fields, hfields, h1, h2, h3⟩
    exact ⟨fields, hfields, _, h1, _, h2, _, h3, rfl⟩

theorem reads_table (r : Response) : r.Reads (present r.table) where
  sizes := field?_optional r.nodup_keys_table rfl Sizes.decode?_encode fun _ h => nomatch h
  roots := field?_list r.nodup_keys_table rfl fun s _ => string?_string s
  packages := field?_of_some r.nodup_keys_table rfl (list?_map fun p _ => p.decode?_encode) _

/-- **A response is read back** as it was. -/
theorem decode?_encode (r : Response) : decode? r.encode = some r := by
  rw [decode?_eq_some_iff, encode_eq]
  exact ⟨_, fields?_present r.nodup_keys_table, r.reads_table⟩

/-- The fields that are left out when they are empty, and what it is for them to be empty. -/
def omissible : List (String × (Response → Prop)) :=
  [("Sizes", (·.sizes = none)), ("Roots", (·.roots = []))]

theorem mem_omissible_of_lacks {r : Response} {name : String} (hname : name ∈ fieldNames)
    (h : r.encode.Lacks name) : name ∈ omissible.map Prod.fst := by
  rw [encode_eq] at h
  simp only [fieldNames, List.mem_cons, List.not_mem_nil, or_false] at hname
  rcases hname with rfl | rfl | rfl
  · exact List.mem_cons_self
  · exact List.mem_cons_of_mem _ List.mem_cons_self
  · exact absurd h (not_lacks_of_some r.nodup_keys_table rfl)

/-- **What is left out of a response is what is read** where nothing is there. -/
theorem omissions : Omissions encode decode? fieldNames omissible where
  mem_of_lacks := mem_omissible_of_lacks
  omits hf := by
    simp only [omissible, List.mem_cons, List.not_mem_nil, or_false] at hf
    rcases hf with rfl | rfl
    · exact .of_table encode_eq nodup_keys_table decode?_eq_some_iff.1 (fun _ => rfl)
        (fun _ => Option.map_eq_none_iff) Reads.sizes
    · exact .of_table encode_eq nodup_keys_table decode?_eq_some_iff.1 (fun _ => rfl)
        (fun _ => valueUnless_eq_none.trans List.isEmpty_iff) Reads.roots

end Response

end PackageListing
