/-
# The order of the files below a directory

In a proper tree (`FileTree.IsProper`) the entries of a directory have distinct names, and each name
is one that a path can spell. There no file lies below another, so the first names where two files
differ say which of them a walk comes to first (`FileTree.pairwise_precedes_filePlaces`), and some
files have one such order only (`FileTree.eq_of_pairwise_precedes`). The path by which a walk comes
to a file or directory leads to it, unless it is too long (`FileSystem.get_pathBelow`).
-/

import PackageListing.Proofs.Files.Below
import PackageListing.Proofs.Text.Utf8

namespace PackageListing
namespace FileTree

/-! ### Proper trees -/

/-- A name that an entry of a directory can have. -/
def IsEntryName (name : String) : Prop :=
  Path.IsName name ∧ '\x00' ∉ name.toList ∧ name.utf8ByteSize ≤ FileSystem.nameLimit

instance (name : String) : Decidable (IsEntryName name) :=
  inferInstanceAs (Decidable (_ ∧ _))

/-- The entries of each directory have names, and no two of them the same. -/
structure IsProper (t : FileTree) : Prop where
  nodup : ∀ {place entries}, t.at? place = some (.directory entries) →
    (entries.map Prod.fst).Nodup
  names : ∀ {place entries}, t.at? place = some (.directory entries) →
    ∀ e ∈ entries, IsEntryName e.1

variable {t s : FileTree} {skip : String} {base place : Place}
  {entries : List (String × FileTree)}

theorem IsProper.of_at? (h : t.IsProper) (hat : t.at? base = some s) : s.IsProper := by
  have hbelow : ∀ {place entries}, s.at? place = some (.directory entries) →
      t.at? (base ++ place) = some (.directory entries) := by
    intro place entries hs
    rw [at?_append, hat, Option.bind_some, hs]
  exact ⟨fun hs => h.nodup (hbelow hs), fun hs => h.names (hbelow hs)⟩

theorem IsProper.distinct (h : t.IsProper) : Distinct skip t := by
  intro place entries _ hat
  exact (h.nodup hat).filter _

/-- The names on the way to a place are names of entries. -/
theorem IsProper.isEntryName (h : t.IsProper) (hat : t.at? place = some s) :
    ∀ name ∈ place, IsEntryName name := by
  intro name hmem
  obtain ⟨before, after, rfl⟩ := List.append_of_mem hmem
  obtain ⟨entries, child, hentries, hlookup, -⟩ := exists_entries_of_at?_append hat
  exact h.names hentries _ (mem_of_lookup hlookup)

theorem isProper_of_kind_ne (h : t.kind ≠ .directory) : t.IsProper := by
  have hnone : ∀ {place entries}, t.at? place ≠ some (.directory entries) := by
    rintro (_ | ⟨name, place⟩) entries hat
    · rw [at?_nil] at hat
      obtain rfl := Option.some.inj hat
      exact h rfl
    · rw [at?_cons_of_kind_ne h] at hat
      cases hat
  exact ⟨fun hat => absurd hat hnone, fun hat => absurd hat hnone⟩

/-- A directory is proper if its names are and all that it holds. -/
theorem isProper_directory (hnodup : (entries.map Prod.fst).Nodup)
    (hnames : ∀ name ∈ entries.map Prod.fst, IsEntryName name)
    (hentries : ∀ e ∈ entries, e.2.IsProper) :
    (FileTree.directory entries).IsProper := by
  have hcases : ∀ {place entries'}, (FileTree.directory entries).at? place =
      some (.directory entries') → entries' = entries ∨
        ∃ e ∈ entries, ∃ place', e.2.at? place' = some (.directory entries') := by
    rintro (_ | ⟨name, place⟩) entries' hat
    · rw [at?_nil] at hat
      cases hat
      exact .inl rfl
    · rw [at?_directory] at hat
      obtain ⟨child, hlookup, hchild⟩ := Option.bind_eq_some_iff.1 hat
      exact .inr ⟨_, mem_of_lookup hlookup, place, hchild⟩
  constructor
  · intro place entries' hat
    obtain rfl | ⟨e, he, place', hchild⟩ := hcases hat
    · exact hnodup
    · exact (hentries e he).nodup hchild
  · intro place entries' hat
    obtain rfl | ⟨e, he, place', hchild⟩ := hcases hat
    · exact fun e he => hnames _ (List.mem_map_of_mem he)
    · exact (hentries e he).names hchild

/-! ### Which place comes first -/

/-- At the first name where they differ, the bytes of the names say which place comes first. -/
def Precedes (a b : Place) : Prop :=
  ∃ common first second restA restB, a = common ++ first :: restA ∧ b = common ++ second :: restB ∧
    Text.encode first.toList < Text.encode second.toList

variable {a b : Place}

theorem Precedes.lt (h : Precedes a b) : a < b := by
  obtain ⟨common, first, second, restA, restB, rfl, rfl, hless⟩ := h
  exact List.Lex.append_left (· < ·) (.rel (Text.encode_lt_encode_iff.1 hless)) common

theorem precedes_of_lt (h : a < b) (hbelow : ¬a <+: b) : Precedes a b := by
  induction h with
  | nil => exact absurd (List.nil_prefix) hbelow
  | rel hless => exact ⟨[], _, _, _, _, rfl, rfl, Text.encode_lt_encode_iff.2 hless⟩
  | cons _ ih =>
    rw [List.prefix_cons_inj] at hbelow
    obtain ⟨common, first, second, restA, restB, rfl, rfl, hless⟩ := ih hbelow
    exact ⟨_ :: common, first, second, restA, restB, rfl, rfl, hless⟩

/-- Nothing lies below a file. -/
theorem eq_of_isPrefix_of_isRegular {s' : FileTree} (ha : t.at? a = some s)
    (hregular : s.isRegular = true) (hb : t.at? b = some s') (hbelow : a <+: b) : a = b := by
  obtain ⟨rest, rfl⟩ := hbelow
  rw [at?_append, ha, Option.bind_some] at hb
  cases rest with
  | nil => exact (List.append_nil a).symm
  | cons name rest =>
    cases s with
    | file _ | program _ => cases hb
    | directory _ | link _ => cases hregular

/-- **A walk comes to the files in the order of their places.** -/
theorem pairwise_precedes_filePlaces (h : t.IsProper) :
    (filePlaces skip t).Pairwise Precedes := by
  have hdistinct : Distinct skip t := h.distinct
  refine (pairwise_filePlaces hdistinct).imp_of_mem fun ha hb hless => ?_
  obtain ⟨-, s, hs, hregular⟩ := (mem_filePlaces_iff hdistinct).1 ha
  obtain ⟨-, s', hs', -⟩ := (mem_filePlaces_iff hdistinct).1 hb
  -- A place is also less than all places below it, but there are none below a file.
  refine precedes_of_lt hless fun hbelow => ?_
  exact lt_irrefl _ (eq_of_isPrefix_of_isRegular hs hregular hs' hbelow ▸ hless)

/-- Places have one order. -/
theorem eq_of_pairwise_precedes {l l' : List Place} (h : l.Pairwise Precedes)
    (h' : l'.Pairwise Precedes) (hmem : ∀ place, place ∈ l ↔ place ∈ l') : l = l' := by
  have hnodup : ∀ {l : List Place}, l.Pairwise Precedes → l.Nodup := fun h =>
    h.imp fun hab => ne_of_lt hab.lt
  have hperm := (List.perm_ext_iff_of_nodup (hnodup h) (hnodup h')).2 hmem
  exact hperm.eq_of_pairwise (fun _ _ _ _ hab hba => absurd hba.lt (lt_asymm hab.lt)) h h'

end FileTree

namespace FileSystem

open FileTree (Place pathBelow)

variable {fs : FileSystem} {path : String} {place : Place} {t s : FileTree}

theorem not_mem_pathBelow (hpath : '\x00' ∉ path.toList)
    (hnames : ∀ name ∈ place, '\x00' ∉ name.toList) : '\x00' ∉ (pathBelow path place).toList := by
  induction place generalizing path with
  | nil => exact hpath
  | cons name place ih =>
    obtain ⟨hname, hplace⟩ := List.forall_mem_cons.1 hnames
    have hmember : '\x00' ∉ (FileTree.memberPath path name).toList := by
      rw [FileTree.memberPath, String.toList_append, String.toList_append, List.mem_append,
        List.mem_append, not_or, not_or]
      refine ⟨⟨hpath, ?_⟩, hname⟩
      split <;> decide
    exact ih hmember hplace

/-- **The path by which a walk comes to a file or directory** leads there, unless it is too long. -/
theorem get_pathBelow (hproper : fs.tree.IsProper) (hget : fs.get path = .ok t)
    (hat : t.at? place = some s) (hne : place ≠ []) (hlink : ∀ target, s ≠ .link target)
    (hlength : (pathBelow path place).utf8ByteSize ≤ pathLimit) :
    fs.get (pathBelow path place) = .ok s := by
  obtain ⟨hcheck, base, left, hreaches, hbase⟩ := exists_reaches_of_get hget
  obtain ⟨hzero, hpath, -⟩ := checkPath_eq_ok_iff.1 hcheck
  have hnames := (hproper.of_at? hbase).isEntryName hat
  have hbelow : fs.tree.at? (base ++ place) = some s := by
    rw [FileTree.at?_append, hbase, Option.bind_some, hat]
  have hfound := hreaches.pathBelow hpath hne
    (fun name hname => ⟨(hnames name hname).1, (hnames name hname).2.2⟩) hbelow hlink
  refine hfound.get_eq_ok (checkPath_eq_ok_iff.2 ⟨?_, ?_, hlength⟩) hbelow
  · exact not_mem_pathBelow hzero fun name hname => (hnames name hname).2.1
  · exact FileTree.pathBelow_ne_empty hpath place

end FileSystem
end PackageListing
