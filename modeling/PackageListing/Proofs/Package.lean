/-
# Package descriptors, written and read

A descriptor is written as an object of nine fields (`Package.table`), of which all but the
identifier are left out when they are empty, and read field by field
(`Package.decode?_eq_some_iff`). So it is read back as it was (`Package.decode?_encode`), and a
field that is not there is read as the empty one that is left out (`Package.omissions`).
-/

import PackageListing.Package
import PackageListing.Proofs.Json.Record
import PackageListing.Proofs.Names.Map

namespace PackageListing

open Json

/-! ### Problems -/

namespace Problem

/-- What the object of a problem tells. -/
def table (p : Problem) : Table :=
  [("Pos", some (.string p.position)), ("Msg", some (.string p.message)),
    ("Kind", some (.number p.kind.toInt))]

theorem encode_eq (p : Problem) : p.encode = ofMembers (present p.table) := rfl

theorem nodup_keys_table (p : Problem) : (p.table.map Prod.fst).Nodup := by
  change fieldNames.Nodup
  decide

theorem plain_encode (p : Problem) : Plain p.encode := by
  rw [encode_eq]
  refine plain_present ?_
  simp only [table, List.forall_mem_cons, Option.mem_some_iff, forall_eq']
  exact ⟨.string _, .string _, .integer _, List.forall_mem_nil _⟩

theorem kind?_toInt (k : Int32) : kind? (.number k.toInt) = some k := by
  rw [kind?, integer?, if_pos ⟨Int32.minValue_le_toInt k, Int32.toInt_le k⟩]
  exact congrArg some (Int32.ofInt_toInt k)

/-- **A problem is read back** as it was. -/
theorem decode?_encode (p : Problem) : decode? p.encode = some p := by
  have hnodup := nodup_keys_table p
  have hfields : p.encode.fields? fieldNames = some (present p.table) := fields?_present hnodup
  rw [decode?, hfields]
  simp only [Option.bind_eq_bind, Option.bind_some]
  rw [field?_of_some hnodup rfl (string?_string _), field?_of_some hnodup rfl (string?_string _),
    field?_of_some hnodup rfl (kind?_toInt p.kind)]
  rfl

end Problem

/-! ### Packages -/

namespace Package

theorem plain_encodeMap (m : Names.Map) : Plain (encodeMap m) := by
  refine .object fun n hn => ?_
  obtain ⟨e, -, rfl⟩ := List.mem_map.1 hn
  exact .string e.2

theorem decodeMap?_encodeMap (m : Names.Map) : decodeMap? (encodeMap m) = some m := by
  rw [decodeMap?, encodeMap, strings?_ofMembers, Option.map_some, Names.Map.ofList_entries]

/-- What the object of a package tells. -/
def table (p : Package) : Table :=
  [("ID", some (.string p.id)),
    ("Name", valueUnless p.name.isEmpty (.string p.name)),
    ("PkgPath", valueUnless p.path.isEmpty (.string p.path)),
    ("Errors", valueUnless p.problems.isEmpty (.array (p.problems.map Problem.encode))),
    ("GoFiles", valueUnless p.goFiles.isEmpty (.ofStrings p.goFiles)),
    ("CompiledGoFiles", valueUnless p.compiledGoFiles.isEmpty (.ofStrings p.compiledGoFiles)),
    ("OtherFiles", valueUnless p.otherFiles.isEmpty (.ofStrings p.otherFiles)),
    ("ExportFile", p.exportFile.map .string),
    ("Imports", valueUnless p.imports.isEmpty (encodeMap p.imports))]

theorem encode_eq (p : Package) : p.encode = ofMembers (present p.table) := by
  simp only [encode, table, present_cons_some, present_cons_valueUnless, present_cons_optional,
    present_nil, List.append_assoc, List.append_nil]

theorem nodup_keys_table (p : Package) : (p.table.map Prod.fst).Nodup := by
  change fieldNames.Nodup
  decide

theorem plain_encode (p : Package) : Plain p.encode := by
  have hproblems : Plain (.array (p.problems.map Problem.encode)) :=
    plain_array_map fun q _ => q.plain_encode
  rw [encode_eq]
  refine plain_present ?_
  simp only [table, List.forall_mem_cons, Option.mem_some_iff, forall_eq']
  refine ⟨.string _, fun _ => plain_of_mem_valueUnless (.string _),
    fun _ => plain_of_mem_valueUnless (.string _), fun _ => plain_of_mem_valueUnless hproblems,
    fun _ => plain_of_mem_valueUnless (plain_ofStrings _),
    fun _ => plain_of_mem_valueUnless (plain_ofStrings _),
    fun _ => plain_of_mem_valueUnless (plain_ofStrings _),
    fun _ => plain_of_mem_map .string,
    fun _ => plain_of_mem_valueUnless (plain_encodeMap _), List.forall_mem_nil _⟩

/-- What the known fields of an object say of a package. -/
structure Reads (p : Package) (fields : List (String × Json)) : Prop where
  id : field? fields "ID" none string? = some p.id
  name : field? fields "Name" (some "") string? = some p.name
  path : field? fields "PkgPath" (some "") string? = some p.path
  problems : field? fields "Errors" (some []) (list? Problem.decode?) = some p.problems
  goFiles : field? fields "GoFiles" (some []) (list? string?) = some p.goFiles
  compiledGoFiles :
    field? fields "CompiledGoFiles" (some []) (list? string?) = some p.compiledGoFiles
  otherFiles : field? fields "OtherFiles" (some []) (list? string?) = some p.otherFiles
  exportFile : field? fields "ExportFile" (some none) (optional? string?) = some p.exportFile
  imports : field? fields "Imports" (some .empty) decodeMap? = some p.imports

/-- **A package is read field by field.** -/
theorem decode?_eq_some_iff {j : Json} {p : Package} :
    decode? j = some p ↔ ∃ fields, j.fields? fieldNames = some fields ∧ p.Reads fields := by
  simp only [decode?, Option.bind_eq_bind, Option.bind_eq_some_iff, Option.pure_def,
    Option.some.injEq]
  constructor
  · rintro ⟨fields, hfields, _, h1, _, h2, _, h3, _, h4, _, h5, _, h6, _, h7, _, h8, _, h9, rfl⟩
    exact ⟨fields, hfields, h1, h2, h3, h4, h5, h6, h7, h8, h9⟩
  · rintro ⟨fields, hfields, h1, h2, h3, h4, h5, h6, h7, h8, h9⟩
    exact ⟨fields, hfields, _, h1, _, h2, _, h3, _, h4, _, h5, _, h6, _, h7, _, h8, _, h9, rfl⟩

theorem reads_table (p : Package) : p.Reads (present p.table) where
  id := field?_of_some p.nodup_keys_table rfl (string?_string _) none
  name := field?_text p.nodup_keys_table rfl
  path := field?_text p.nodup_keys_table rfl
  problems := field?_list p.nodup_keys_table rfl fun q _ => q.decode?_encode
  goFiles := field?_list p.nodup_keys_table rfl fun s _ => string?_string s
  compiledGoFiles := field?_list p.nodup_keys_table rfl fun s _ => string?_string s
  otherFiles := field?_list p.nodup_keys_table rfl fun s _ => string?_string s
  exportFile := field?_optional p.nodup_keys_table rfl string?_string fun _ h => nomatch h
  imports := field?_of_valueUnless p.nodup_keys_table rfl Names.Map.isEmpty_iff.1
    fun _ => decodeMap?_encodeMap _

/-- **A package is read back** as it was. -/
theorem decode?_encode (p : Package) : decode? p.encode = some p := by
  rw [decode?_eq_some_iff, encode_eq]
  exact ⟨_, fields?_present p.nodup_keys_table, p.reads_table⟩

/-- The fields that are left out when they are empty, and what it is for them to be empty. -/
def omissible : List (String × (Package → Prop)) :=
  [("Name", (·.name = "")), ("PkgPath", (·.path = "")), ("Errors", (·.problems = [])),
    ("GoFiles", (·.goFiles = [])), ("CompiledGoFiles", (·.compiledGoFiles = [])),
    ("OtherFiles", (·.otherFiles = [])), ("ExportFile", (·.exportFile = none)),
    ("Imports", (·.imports = .empty))]

/-- A field of the table that is read as its empty value where an object lacks it. -/
theorem omits_field {β : Type} {name : String} {value? : Package → Option Json}
    (hlookup : ∀ p : Package, p.table.lookup name = some (value? p)) {value : Package → β}
    {empty : β} (hempty : ∀ p, value? p = none ↔ value p = empty) {decodeField : Json → Option β}
    (hread : ∀ {p : Package} {fields}, p.Reads fields →
      field? fields name (some empty) decodeField = some (value p)) :
    Omits encode decode? name fun p => value p = empty :=
  .of_table encode_eq nodup_keys_table decode?_eq_some_iff.1 hlookup hempty hread

theorem mem_omissible_of_lacks {p : Package} {name : String} (hname : name ∈ fieldNames)
    (h : p.encode.Lacks name) : name ∈ omissible.map Prod.fst := by
  have hid : name ≠ "ID" := by
    rintro rfl
    rw [encode_eq] at h
    exact not_lacks_of_some p.nodup_keys_table rfl h
  exact List.mem_of_ne_of_mem hid hname

/-- **What is left out of a package is what is read** where nothing is there. -/
theorem omissions : Omissions encode decode? fieldNames omissible where
  mem_of_lacks := mem_omissible_of_lacks
  omits {f} hf := by
    have htext : ∀ (s : String) (j : Json), valueUnless s.isEmpty j = none ↔ s = "" :=
      fun _ _ => valueUnless_eq_none.trans String.isEmpty_iff
    have hlist : ∀ {α : Type} (l : List α) (j : Json), valueUnless l.isEmpty j = none ↔ l = [] :=
      fun _ _ => valueUnless_eq_none.trans List.isEmpty_iff
    simp only [omissible, List.mem_cons, List.not_mem_nil, or_false] at hf
    rcases hf with rfl | rfl | rfl | rfl | rfl | rfl | rfl | rfl
    · exact omits_field (fun _ => rfl) (fun _ => htext _ _) Reads.name
    · exact omits_field (fun _ => rfl) (fun _ => htext _ _) Reads.path
    · exact omits_field (fun _ => rfl) (fun _ => hlist _ _) Reads.problems
    · exact omits_field (fun _ => rfl) (fun _ => hlist _ _) Reads.goFiles
    · exact omits_field (fun _ => rfl) (fun _ => hlist _ _) Reads.compiledGoFiles
    · exact omits_field (fun _ => rfl) (fun _ => hlist _ _) Reads.otherFiles
    · exact omits_field (fun _ => rfl) (fun _ => Option.map_eq_none_iff) Reads.exportFile
    · exact omits_field (fun _ => rfl)
        (fun _ => valueUnless_eq_none.trans Names.Map.isEmpty_iff) Reads.imports

end Package

end PackageListing
