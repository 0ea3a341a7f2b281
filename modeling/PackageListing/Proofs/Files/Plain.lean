/-
# Plain paths

An absolute path without `.`, `..` and repeated slashes leads to the place that its names spell, as
long as there is something other than a link (`resolve_of_at?`). So the root lies under `/`
(`resolve_root`) and what is in it under its name after a slash (`resolve_of_lookup`).
-/

import PackageListing.Proofs.Files.Writing

namespace PackageListing

namespace FileTree

theorem at?_append (t : FileTree) (a b : Place) : t.at? (a ++ b) = (t.at? a).bind (·.at? b) := by
  induction a generalizing t with
  | nil => rw [List.nil_append, at?_nil, Option.bind_some]
  | cons name a ih =>
    cases t with
    | directory entries =>
      rw [List.cons_append, at?_directory, at?_directory, Option.bind_assoc]
      exact Option.bind_congr fun t _ => ih t
    | file _ | program _ | link _ => rfl

/-- What has something below it is a directory. -/
theorem exists_entries_of_at?_append {t s : FileTree} {base place : Place} {name : String}
    (h : t.at? (base ++ name :: place) = some s) :
    ∃ entries child, t.at? base = some (.directory entries) ∧ entries.lookup name = some child ∧
      child.at? place = some s := by
  rw [at?_append] at h
  obtain ⟨d, hd, hs⟩ := Option.bind_eq_some_iff.1 h
  cases d with
  | directory entries =>
    rw [at?_directory] at hs
    obtain ⟨child, hchild, hs⟩ := Option.bind_eq_some_iff.1 hs
    exact ⟨entries, child, hd, hchild, hs⟩
  | file _ | program _ | link _ => cases hs

end FileTree

namespace FileSystem

open FileTree (Place)

/-- A name that a lookup takes as it is. -/
def IsPlain (name : String) : Prop :=
  ¬(name = "" ∨ name = ".") ∧ name ≠ ".." ∧ ¬nameLimit < name.utf8ByteSize

instance (name : String) : Decidable (IsPlain name) :=
  inferInstanceAs (Decidable (_ ∧ _))

/-- **Names are followed** to the place that they spell. -/
theorem follow_names {fs : FileSystem} {names base : Place} {t : FileTree}
    (hplain : ∀ name ∈ names, IsPlain name) (hat : fs.tree.at? (base ++ names) = some t)
    (hlink : ∀ target, t ≠ .link target) (links : Nat) :
    fs.follow links base names = .ok (base ++ names, links) := by
  induction names generalizing base with
  | nil => rw [follow, List.append_nil]
  | cons name names ih =>
    obtain ⟨⟨hname, hparent, hlen⟩, hplain⟩ := List.forall_mem_cons.1 hplain
    obtain ⟨entries, child, hbase, hchild, hbelow⟩ := FileTree.exists_entries_of_at?_append hat
    have hchildlink : ∀ target, child ≠ .link target := by
      rintro target rfl
      cases names with
      | nil =>
        rw [FileTree.at?_nil] at hbelow
        cases hbelow
        exact hlink target rfl
      | cons => cases hbelow
    rw [List.append_cons] at hat ⊢
    rw [follow_name hbase hname hparent hlen hchild hchildlink, ih hplain hat]

/-- **A plain path leads to the place that it spells.** -/
theorem resolve_of_at? {fs : FileSystem} {path : String} {place : Place} {t : FileTree}
    (hcheck : checkPath path = .ok ()) (hstart : Path.isAbsolute path = true)
    (hpieces : pieces path = "" :: place) (hplain : ∀ name ∈ place, IsPlain name)
    {entries : List (String × FileTree)} (hroot : fs.tree = .directory entries)
    (hat : fs.tree.at? place = some t) (hlink : ∀ target, t ≠ .link target) :
    fs.resolve path = .ok place := by
  have hroot : fs.tree.at? [] = some (.directory entries) := by rw [hroot, FileTree.at?_nil]
  have hfollow : fs.follow linkLimit (startOf fs.workingPlace path) (pieces path) =
      .ok (place, linkLimit) := by
    rw [startOf, if_pos hstart, hpieces, follow_silent hroot (.inl rfl)]
    exact follow_names hplain hat hlink linkLimit
  exact Result.bind_eq_ok.2 ⟨(), hcheck, Result.bind_eq_ok.2 ⟨_, hfollow, rfl⟩⟩

theorem get_of_resolve {fs : FileSystem} {path : String} {place : Place} {t : FileTree}
    (hresolve : fs.resolve path = .ok place) (hat : fs.tree.at? place = some t) :
    fs.get path = .ok t :=
  Result.bind_eq_ok.2 ⟨place, hresolve, by rw [hat]; rfl⟩

/-- The spelling of the absolute path of a name in the root. -/
def IsRootPath (path name : String) : Prop :=
  checkPath path = .ok () ∧ Path.isAbsolute path = true ∧ pieces path = ["", name] ∧ IsPlain name

/-- **A name in the root** is found under its absolute path. -/
theorem resolve_of_lookup {fs : FileSystem} {entries : List (String × FileTree)} {t : FileTree}
    {path name : String} (hpath : IsRootPath path name) (hroot : fs.tree = .directory entries)
    (hlookup : entries.lookup name = some t) (hlink : ∀ target, t ≠ .link target) :
    fs.resolve path = .ok [name] ∧ fs.get path = .ok t := by
  obtain ⟨hcheck, hstart, hpieces, hplain⟩ := hpath
  have hat : fs.tree.at? [name] = some t := by
    rw [hroot, FileTree.at?_directory, hlookup, Option.bind_some, FileTree.at?_nil]
  have hresolve := resolve_of_at? hcheck hstart hpieces (List.forall_mem_singleton.2 hplain) hroot
    hat hlink
  exact ⟨hresolve, get_of_resolve hresolve hat⟩

theorem resolve_root {fs : FileSystem} {entries : List (String × FileTree)}
    (hroot : fs.tree = .directory entries) : fs.resolve "/" = .ok [] := by
  have hat : fs.tree.at? [] = some (.directory entries) := by rw [hroot, FileTree.at?_nil]
  have hfollow : fs.follow linkLimit (startOf fs.workingPlace "/") (pieces "/") =
      .ok ([], linkLimit) := by
    change fs.follow linkLimit [] ["", ""] = _
    rw [follow_silent hat (.inl rfl), follow_silent hat (.inl rfl), follow]
  exact Result.bind_eq_ok.2 ⟨(), rfl, Result.bind_eq_ok.2 ⟨_, hfollow, rfl⟩⟩

/-- A name that is not in the root leads nowhere. -/
theorem resolve_of_lookup_eq_none {fs : FileSystem} {entries : List (String × FileTree)}
    {path name : String} (hpath : IsRootPath path name) (hroot : fs.tree = .directory entries)
    (hlookup : entries.lookup name = none) : fs.resolve path = .error .notFound := by
  obtain ⟨hcheck, hstart, hpieces, hplain⟩ := hpath
  have hat : fs.tree.at? [] = some (.directory entries) := by rw [hroot, FileTree.at?_nil]
  have hfollow : fs.follow linkLimit (startOf fs.workingPlace path) (pieces path) =
      .error .notFound := by
    rw [startOf, if_pos hstart, hpieces, follow_silent hat (.inl rfl), follow, hat]
    simp only [if_neg hplain.1, if_neg hplain.2.1, if_neg hplain.2.2, hlookup]
  rw [resolve, hcheck]
  change (fs.follow linkLimit (startOf fs.workingPlace path) (pieces path) >>= fun _ => _) = _
  rw [hfollow]
  rfl

end FileSystem
end PackageListing
