/-
# A file tree with one more file

What is at a place of a tree is a regular file, a link or a directory (`kind`), and a path lookup
does not look at more. To put a file where there is none, or where another file is, keeps all else
of its kind (`kept_put`): directories have the names that they had (`Kept.directory`), links hold
what they held. The file itself is then at its place (`at?_put_concat`), if that is in a directory.
-/

import PackageListing.Files.Tree

namespace PackageListing
namespace FileTree

/-- What a path lookup sees of a file. -/
inductive Kind where
  | regular
  | link (target : String)
  | directory
  deriving DecidableEq

/-- The kind of what is in a tree. -/
def kind : FileTree → Kind
  | .file _ | .program _ => .regular
  | .link target => .link target
  | .directory _ => .directory

theorem kind_eq_directory {t : FileTree} :
    t.kind = .directory ↔ ∃ entries, t = .directory entries := by
  cases t <;> simp [kind]

theorem kind_eq_link {t : FileTree} {target : String} :
    t.kind = .link target ↔ t = .link target := by
  cases t <;> simp [kind]

theorem at?_nil (t : FileTree) : t.at? [] = some t := by
  cases t <;> rfl

theorem at?_directory (entries : List (String × FileTree)) (name : String) (place : Place) :
    (directory entries).at? (name :: place) = (entries.lookup name).bind fun t => t.at? place := rfl

/-- Below what is no directory there is nothing. -/
theorem at?_cons_of_kind_ne {t : FileTree} (h : t.kind ≠ .directory) (name : String)
    (place : Place) : t.at? (name :: place) = none := by
  cases t with
  | directory entries => exact absurd rfl h
  | _ => rfl

/-- What a name in a directory stands for. -/
theorem at?_concat {t : FileTree} {place : Place} {entries : List (String × FileTree)}
    (h : t.at? place = some (.directory entries)) (name : String) :
    t.at? (place ++ [name]) = entries.lookup name := by
  induction place generalizing t with
  | nil =>
    rw [at?_nil] at h
    cases h
    rw [List.nil_append, at?_directory]
    cases entries.lookup name with
    | none => rfl
    | some t => exact at?_nil t
  | cons first place ih =>
    cases t with
    | directory top =>
      rw [at?_directory] at h
      obtain ⟨t, hlookup, hat⟩ := Option.bind_eq_some_iff.1 h
      rw [List.cons_append, at?_directory, hlookup]
      exact ih hat
    | _ => cases h

theorem lookup_putEntry_ne {name other : String} (h : other ≠ name) (t : FileTree)
    (entries : List (String × FileTree)) :
    (putEntry name t entries).lookup other = entries.lookup other := by
  have hne : (other == name) = false := beq_eq_false_iff_ne.2 h
  induction entries with
  | nil => rw [putEntry, List.lookup_cons, hne]
  | cons e entries ih =>
    obtain ⟨key, value⟩ := e
    rw [putEntry]
    split
    · next heq =>
      obtain rfl : key = name := heq
      rw [List.lookup_cons, List.lookup_cons, hne]
    · rw [List.lookup_cons, List.lookup_cons, ih]

/-! ### What is kept -/

/-- All that is at places of the one tree is at those places of the other, of the same kind. -/
def Kept (t t' : FileTree) : Prop :=
  ∀ {place s}, t.at? place = some s → ∃ s', t'.at? place = some s' ∧ s'.kind = s.kind

/-- A directory that is kept has entries of the kinds that it had. -/
theorem Kept.directory {t t' : FileTree} (hkept : Kept t t') {place : Place}
    {entries : List (String × FileTree)} (h : t.at? place = some (.directory entries)) :
    ∃ entries', t'.at? place = some (.directory entries') ∧
      ∀ {name s}, entries.lookup name = some s →
        ∃ s', entries'.lookup name = some s' ∧ s'.kind = s.kind := by
  obtain ⟨d, hat, hkind⟩ := hkept h
  obtain ⟨entries', rfl⟩ := kind_eq_directory.1 hkind
  refine ⟨entries', hat, fun {name s} hlookup => ?_⟩
  rw [← at?_concat h] at hlookup
  rw [← at?_concat hat]
  exact hkept hlookup

/-- **All is kept** where a file is put over nothing or over another file. -/
theorem kept_put {new t : FileTree} {place : Place} (hnew : new.kind = .regular)
    (hold : ∀ old, t.at? place = some old → old.kind = .regular) : Kept t (put new t place) := by
  intro other s hs
  -- Along the place the entry that is put anew is the only one that changes.
  induction place generalizing t other s with
  | nil =>
    have ht : t.kind = .regular := hold t (at?_nil t)
    cases other with
    | nil =>
      rw [at?_nil] at hs
      cases hs
      exact ⟨new, by rw [put, at?_nil], hnew.trans ht.symm⟩
    | cons name other =>
      rw [at?_cons_of_kind_ne (by rw [ht]; decide)] at hs
      cases hs
  | cons name place ih =>
    cases t with
    | directory entries =>
      cases other with
      | nil =>
        cases hs
        exact ⟨_, at?_nil _, rfl⟩
      | cons first other =>
        rw [at?_directory] at hs
        obtain ⟨t, hlookup, hat⟩ := Option.bind_eq_some_iff.1 hs
        rw [put, at?_directory]
        by_cases hname : first = name
        · subst hname
          rw [lookup_putEntry, hlookup]
          refine ih (fun old hold' => hold old ?_) hat
          rw [at?_directory, hlookup]
          exact hold'
        · rw [lookup_putEntry_ne hname, hlookup]
          exact ⟨s, hat, rfl⟩
    | _ => exact ⟨s, hs, rfl⟩

/-- **What is put in a directory is there.** -/
theorem at?_put_concat {new t : FileTree} {place : Place} {entries : List (String × FileTree)}
    (h : t.at? place = some (.directory entries)) (name : String) :
    (put new t (place ++ [name])).at? (place ++ [name]) = some new := by
  induction place generalizing t with
  | nil =>
    rw [at?_nil] at h
    cases h
    rw [List.nil_append, put, at?_directory, lookup_putEntry, put]
    exact at?_nil new
  | cons first place ih =>
    cases t with
    | directory top =>
      rw [at?_directory] at h
      obtain ⟨t, hlookup, hat⟩ := Option.bind_eq_some_iff.1 h
      rw [List.cons_append, put, at?_directory, lookup_putEntry, hlookup]
      exact ih hat
    | _ => cases h

end FileTree
end PackageListing
