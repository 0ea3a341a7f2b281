/-
# Directories that files are stored in

To put something at a place of a tree changes nothing elsewhere, apart from the directories on the
way, which have one more entry or another one (`exists_at?_put`, `at?_put_cases`). So while files
are written one by one below a directory, the directory stores the files that were written and
nothing else but directories (`FileTree.Stores`), outside of the entries with a name that is left
out. What is made on the way are directories (`Holds.createDirectories`), each with a path that
could be written to (`checkPath_join_of_isPrefix`), and each file that is written comes to the
others (`Holds.write`).
-/

import Mathlib.Data.List.Nodup
import PackageListing.Proofs.Files.Making
import PackageListing.Proofs.Path.Joined

namespace PackageListing
namespace FileTree

/-! ### What is elsewhere -/

/-- **What is elsewhere stays,** and directories stay directories. -/
theorem exists_at?_put {new t s : FileTree} {target place : Place} (hs : t.at? place = some s)
    (hnot : ¬target <+: place) :
    ∃ s', (put new t target).at? place = some s' ∧ s'.kind = s.kind ∧
      (s.kind ≠ .directory → s' = s) := by
  induction target generalizing t place with
  | nil => exact absurd List.nil_prefix hnot
  | cons name target ih =>
    cases t with
    | directory entries =>
      cases place with
      | nil =>
        rw [at?_nil] at hs
        cases hs
        exact ⟨_, at?_nil _, rfl, fun h => absurd rfl h⟩
      | cons first place =>
        rw [at?_directory] at hs
        obtain ⟨child, hlookup, hat⟩ := Option.bind_eq_some_iff.1 hs
        rw [put, at?_directory]
        by_cases hname : first = name
        · subst hname
          rw [lookup_putEntry, hlookup]
          exact ih hat fun h => hnot ((List.prefix_cons_inj first).2 h)
        · rw [lookup_putEntry_ne hname, hlookup]
          exact ⟨s, hat, rfl, fun _ => rfl⟩
    | file _ | program _ | link _ => exact ⟨s, hs, rfl, fun _ => rfl⟩

/-- **What there is afterwards:** what was put, what was there, or a directory on the way. -/
theorem at?_put_cases {new t s : FileTree} {parent place : Place} {name : String}
    {top : List (String × FileTree)} (h : t.at? parent = some (.directory top))
    (hs : (put new t (parent ++ [name])).at? place = some s) :
    (∃ rest, place = parent ++ [name] ++ rest ∧ new.at? rest = some s) ∨
      t.at? place = some s ∨
      ∃ entries key value, t.at? place = some (.directory entries) ∧
        s = .directory (putEntry key value entries) := by
  induction parent generalizing t place with
  | nil =>
    rw [at?_nil] at h
    cases h
    rw [List.nil_append, put, put] at hs
    cases place with
    | nil =>
      rw [at?_nil] at hs
      cases hs
      exact .inr (.inr ⟨top, name, new, at?_nil _, rfl⟩)
    | cons first place =>
      rw [at?_directory] at hs
      by_cases hname : first = name
      · subst hname
        rw [lookup_putEntry] at hs
        exact .inl ⟨place, rfl, hs⟩
      · rw [lookup_putEntry_ne hname] at hs
        exact .inr (.inl hs)
  | cons way parent ih =>
    cases t with
    | directory entries =>
      rw [at?_directory] at h
      obtain ⟨child, hlookup, hat⟩ := Option.bind_eq_some_iff.1 h
      rw [List.cons_append, put, hlookup, Option.getD_some] at hs
      cases place with
      | nil =>
        rw [at?_nil] at hs
        cases hs
        exact .inr (.inr ⟨entries, way, _, at?_nil _, rfl⟩)
      | cons first place =>
        rw [at?_directory] at hs ⊢
        by_cases hname : first = way
        · subst hname
          rw [lookup_putEntry] at hs
          rw [hlookup]
          rcases ih hat hs with ⟨rest, rfl, hrest⟩ | hsame | hchanged
          · exact .inl ⟨rest, rfl, hrest⟩
          · exact .inr (.inl hsame)
          · exact .inr (.inr hchanged)
        · rw [lookup_putEntry_ne hname] at hs
          exact .inr (.inl hs)
    | file _ | program _ | link _ => cases h

theorem mem_of_lookup {name : String} {t : FileTree} {entries : List (String × FileTree)}
    (h : entries.lookup name = some t) : (name, t) ∈ entries := by
  obtain ⟨before, after, rfl, -⟩ := List.lookup_eq_some_iff.1 h
  exact List.mem_append_right _ List.mem_cons_self

theorem exists_at?_of_isPrefix {t s : FileTree} {place place' : Place} (h : place <+: place')
    (hs : t.at? place' = some s) : ∃ s', t.at? place = some s' := by
  obtain ⟨rest, rfl⟩ := h
  rw [at?_append] at hs
  obtain ⟨s', hs', -⟩ := Option.bind_eq_some_iff.1 hs
  exact ⟨s', hs'⟩

theorem Kept.trans {t t' t'' : FileTree} (h : Kept t t') (h' : Kept t' t'') : Kept t t'' := by
  intro place s hs
  obtain ⟨s', hs', hkind⟩ := h hs
  obtain ⟨s'', hs'', hkind'⟩ := h' hs'
  exact ⟨s'', hs'', hkind'.trans hkind⟩

theorem kept_put_of_eq_none {new t : FileTree} {place : Place} (h : t.at? place = none) :
    Kept t (put new t place) := by
  intro other s hs
  obtain ⟨s', hs', hkind, -⟩ := exists_at?_put hs fun hbelow => by
    obtain ⟨_, hsome⟩ := exists_at?_of_isPrefix hbelow hs
    cases h.symm.trans hsome
  exact ⟨s', hs', hkind⟩

/-! ### Names of entries -/

/-- The names of some entries, but for one that is left out. -/
def namesBut (skip : String) (entries : List (String × FileTree)) : List String :=
  (entries.map Prod.fst).filter (· ≠ skip)

theorem map_fst_putEntry (name : String) (t : FileTree) (entries : List (String × FileTree)) :
    (putEntry name t entries).map Prod.fst =
      if name ∈ entries.map Prod.fst then entries.map Prod.fst
      else entries.map Prod.fst ++ [name] := by
  induction entries with
  | nil => rfl
  | cons e entries ih =>
    rw [putEntry]
    by_cases he : e.1 = name
    · simp [he]
    · rw [if_neg he, List.map_cons, ih, List.map_cons]
      simp only [List.mem_cons, Ne.symm he, false_or]
      split
      · rfl
      · rfl

theorem nodup_namesBut_putEntry {skip name : String} {t : FileTree}
    {entries : List (String × FileTree)} (h : (namesBut skip entries).Nodup) :
    (namesBut skip (putEntry name t entries)).Nodup := by
  rw [namesBut, map_fst_putEntry]
  split
  · exact h
  · next hname =>
    rw [List.filter_append, List.nodup_append]
    refine ⟨h, (List.nodup_singleton name).filter _, ?_⟩
    rintro a ha b hb rfl
    obtain rfl := List.mem_singleton.1 (List.mem_filter.1 hb).1
    exact hname (List.mem_filter.1 ha).1

/-! ### Stores -/

/-- What is below the place of a directory: the files that were written, and directories, in each of
them distinct names. What stands under the name `skip` does not count. -/
structure Stores (skip : String) (tree : FileTree) (base : Place)
    (written : List (Place × List UInt8)) : Prop where
  directory : ∃ entries, tree.at? base = some (.directory entries)
  distinct : ∀ {place entries}, skip ∉ place →
    tree.at? (base ++ place) = some (.directory entries) → (namesBut skip entries).Nodup
  only : ∀ {place s}, skip ∉ place → tree.at? (base ++ place) = some s →
    s.kind = .directory ∨ ∃ contents, s = .file contents ∧ (place, contents) ∈ written
  all : ∀ {place contents}, (place, contents) ∈ written →
    skip ∉ place ∧ tree.at? (base ++ place) = some (.file contents)

namespace Stores

variable {skip : String} {tree : FileTree} {base : Place} {written : List (Place × List UInt8)}

/-- A directory that holds nothing but entries of the name that is left out. -/
theorem of_entries {entries : List (String × FileTree)}
    (hat : tree.at? base = some (.directory entries)) (hskip : ∀ e ∈ entries, e.1 = skip) :
    Stores skip tree base [] := by
  have hempty : ∀ {place s}, skip ∉ place → tree.at? (base ++ place) = some s →
      place = [] ∧ s = .directory entries := by
    intro place s hplace hs
    cases place with
    | nil =>
      rw [List.append_nil, hat] at hs
      exact ⟨rfl, (Option.some.inj hs).symm⟩
    | cons name place =>
      obtain ⟨entries', child, hat', hchild, -⟩ := exists_entries_of_at?_append hs
      rw [hat] at hat'
      cases hat'
      exact absurd (hskip _ (mem_of_lookup hchild) ▸ List.mem_cons_self) hplace
  refine ⟨⟨entries, hat⟩, fun hplace hs => ?_, fun hplace hs => ?_, nofun⟩
  · obtain ⟨-, hdirectory⟩ := hempty hplace hs
    cases hdirectory
    have hnone : namesBut skip entries = [] := by
      refine List.filter_eq_nil_iff.2 fun name hname => ?_
      obtain ⟨e, he, rfl⟩ := List.mem_map.1 hname
      simp [hskip e he]
    rw [hnone]
    exact List.nodup_nil
  · obtain ⟨-, rfl⟩ := hempty hplace hs
    exact .inl rfl

/-- **A directory that is made** where nothing is. -/
theorem put_empty (h : Stores skip tree base written) {parent : Place} {name : String}
    {top : List (String × FileTree)} (hat : tree.at? parent = some (.directory top))
    (hnone : top.lookup name = none) :
    Stores skip (put empty tree (parent ++ [name])) base written := by
  have hfree : ∀ {place s}, tree.at? place = some s → ¬parent ++ [name] <+: place := by
    intro place s hs hbelow
    obtain ⟨_, hsome⟩ := exists_at?_of_isPrefix hbelow hs
    rw [at?_concat hat, hnone] at hsome
    cases hsome
  refine ⟨?_, fun hplace hs => ?_, fun hplace hs => ?_, fun hmem => ?_⟩
  · obtain ⟨entries, hbase⟩ := h.directory
    obtain ⟨s, hs, hkind, -⟩ := exists_at?_put hbase (hfree hbase)
    obtain ⟨entries', rfl⟩ := kind_eq_directory.1 hkind
    exact ⟨entries', hs⟩
  · rcases at?_put_cases hat hs with ⟨rest, -, hrest⟩ | hsame | ⟨entries, key, value, hold, hnew⟩
    · cases rest with
      | nil =>
        cases hrest
        exact List.nodup_nil
      | cons => cases hrest
    · exact h.distinct hplace hsame
    · cases hnew
      exact nodup_namesBut_putEntry (h.distinct hplace hold)
  · rcases at?_put_cases hat hs with ⟨rest, -, hrest⟩ | hsame | ⟨entries, key, value, hold, rfl⟩
    · cases rest with
      | nil =>
        cases hrest
        exact .inl rfl
      | cons => cases hrest
    · exact h.only hplace hsame
    · exact .inl rfl
  · obtain ⟨hplace, hs⟩ := h.all hmem
    obtain ⟨s, hs', -, hsame⟩ := exists_at?_put hs (hfree hs)
    obtain rfl := hsame nofun
    exact ⟨hplace, hs'⟩

/-- **A file that is written** where none was stored. -/
theorem put_file (h : Stores skip tree base written) {place : Place} {contents : List UInt8}
    {parent : Place} {name : String} {top : List (String × FileTree)}
    (hat : tree.at? parent = some (.directory top)) (htarget : parent ++ [name] = base ++ place)
    (hold : ∀ old, top.lookup name = some old → old.kind = .regular) (hskip : skip ∉ place)
    (hne : place ≠ []) (hnew : place ∉ written.map Prod.fst) :
    Stores skip (put (.file contents) tree (base ++ place)) base
      (written ++ [(place, contents)]) := by
  -- Below the target there is nothing, because no directory is replaced.
  have hfree : ∀ {other s}, other ≠ base ++ place → tree.at? other = some s →
      ¬base ++ place <+: other := by
    rintro other s hother hs ⟨rest, rfl⟩
    cases rest with
    | nil => exact hother (List.append_nil _)
    | cons first rest =>
      obtain ⟨entries, _, hentries, -⟩ := exists_entries_of_at?_append hs
      rw [← htarget, at?_concat hat] at hentries
      cases hold _ hentries
  rw [← htarget]
  refine ⟨?_, fun hplace hs => ?_, fun hplace hs => ?_, fun hmem => ?_⟩
  · obtain ⟨entries, hbase⟩ := h.directory
    have hother : base ≠ base ++ place := fun heq => hne (List.self_eq_append_right.1 heq)
    obtain ⟨s, hs, hkind, -⟩ := exists_at?_put hbase (hfree hother hbase)
    obtain ⟨entries', rfl⟩ := kind_eq_directory.1 hkind
    exact ⟨entries', htarget ▸ hs⟩
  · rcases at?_put_cases hat hs with ⟨rest, -, hrest⟩ | hsame | ⟨entries, key, value, hdir, hnew⟩
    · cases rest with
      | nil => cases hrest
      | cons => cases hrest
    · exact h.distinct hplace hsame
    · cases hnew
      exact nodup_namesBut_putEntry (h.distinct hplace hdir)
  · rcases at?_put_cases hat hs with ⟨rest, hat', hrest⟩ | hsame | ⟨entries, key, value, hdir, rfl⟩
    · cases rest with
      | nil =>
        cases hrest
        rw [List.append_nil, htarget, List.append_cancel_left_eq] at hat'
        exact .inr ⟨contents, rfl, hat' ▸ List.mem_append_right _ (List.mem_singleton_self _)⟩
      | cons => cases hrest
    · rcases h.only hplace hsame with hkind | ⟨contents', rfl, hmem⟩
      · exact .inl hkind
      · exact .inr ⟨contents', rfl, List.mem_append_left _ hmem⟩
    · exact .inl rfl
  · rcases List.mem_append.1 hmem with hmem | hmem
    · obtain ⟨hplace, hs⟩ := h.all hmem
      have hother : base ++ _ ≠ base ++ place := fun heq =>
        hnew (List.append_cancel_left heq ▸ List.mem_map_of_mem hmem)
      obtain ⟨s, hs', -, hsame⟩ := exists_at?_put hs (hfree hother hs)
      obtain rfl := hsame nofun
      exact ⟨hplace, htarget ▸ hs'⟩
    · cases List.mem_singleton.1 hmem
      exact ⟨hskip, htarget ▸ at?_put_concat hat name⟩

end Stores
end FileTree

namespace FileSystem

open FileTree (Place Kept Stores)

/-! ### Paths to write to -/

theorem checkPath_eq_ok_iff {path : String} :
    checkPath path = .ok () ↔ '\x00' ∉ path.toList ∧ path ≠ "" ∧ path.utf8ByteSize ≤ pathLimit := by
  rw [checkPath]
  by_cases hzero : '\x00' ∈ path.toList
  · simp [hzero]
  · by_cases hempty : path = ""
    · simp [hempty]
    · by_cases hlen : pathLimit < path.utf8ByteSize
      · simp [hzero, hempty, hlen]
      · simp [hzero, hempty, hlen, Nat.le_of_not_lt hlen]

/-- What is left of a path is a path. -/
theorem checkPath_of_parts {before part gap after : String}
    (h : checkPath (before ++ part ++ gap ++ after) = .ok ()) (hne : part ++ after ≠ "") :
    checkPath (part ++ after) = .ok () := by
  obtain ⟨hzero, -, hlen⟩ := checkPath_eq_ok_iff.1 h
  refine checkPath_eq_ok_iff.2 ⟨?_, hne, ?_⟩
  · simp only [String.toList_append, List.mem_append, not_or] at hzero ⊢
    exact ⟨hzero.1.1.2, hzero.2⟩
  · simp only [String.utf8ByteSize_append] at hlen ⊢
    omega

theorem isAbsolute_intercalate {place : Place} (hne : place ≠ [])
    (hnames : ∀ name ∈ place, Path.IsName name) :
    Path.isAbsolute ("/".intercalate place) = false := by
  refine isAbsolute_of_pieces ?_
  rw [pieces_intercalate hne fun name hname => (hnames name hname).2.2.2]
  exact hnames

/-- The first names of a path begin its text. -/
theorem exists_eq_intercalate_append {place : Place} {rest : String} (hne : place ≠ [])
    (hbelow : place <+: pieces rest) : ∃ tail, rest = "/".intercalate place ++ tail := by
  obtain ⟨more, hmore⟩ := hbelow
  rw [← intercalate_pieces rest, ← hmore]
  by_cases hnil : more = []
  · exact ⟨"", by rw [hnil, List.append_nil, String.append_empty]⟩
  · refine ⟨"/" ++ "/".intercalate more, String.toList_inj.1 ?_⟩
    rw [String.toList_append, String.toList_append, String.toList_intercalate,
      String.toList_intercalate, String.toList_intercalate, List.map_append]
    exact Path.intercalate_append (mt List.map_eq_nil_iff.1 hne) (mt List.map_eq_nil_iff.1 hnil)

/-- The first names of a path to write to are such a path. -/
theorem checkPath_join_of_isPrefix {path rest : String} {place : Place} (hpath : path ≠ "")
    (hne : place ≠ []) (hnames : ∀ name ∈ pieces rest, Path.IsName name)
    (hbelow : place <+: pieces rest) (hcheck : checkPath (Path.join path rest) = .ok ()) :
    checkPath (Path.join path ("/".intercalate place)) = .ok () := by
  have hplace := isAbsolute_intercalate hne fun name hname => hnames name (hbelow.subset hname)
  obtain ⟨tail, htail⟩ := exists_eq_intercalate_append hne hbelow
  obtain ⟨hzero, -, hlen⟩ := checkPath_eq_ok_iff.1 hcheck
  rw [Path.join_eq_append hpath (isAbsolute_of_pieces hnames), htail, ← String.append_assoc,
    ← Path.join_eq_append hpath hplace] at hzero hlen
  rw [String.toList_append, List.mem_append, not_or] at hzero
  rw [String.utf8ByteSize_append] at hlen
  exact checkPath_eq_ok_iff.2
    ⟨hzero.1, Path.join_ne_empty hpath hplace, (Nat.le_add_right _ _).trans hlen⟩

/-- The names of a place are fit for files below a path. -/
def IsWritable (path : String) (place : Place) : Prop :=
  checkPath (Path.join path ("/".intercalate place)) = .ok () ∧
    ∀ name ∈ place, Path.IsName name ∧ name.utf8ByteSize ≤ nameLimit

/-- The files after some are written below a path, which leads to a place: what was there is kept,
and the directory at the place stores what was written, with no directories but such as could be
written to. -/
structure Holds (skip : String) (fs₀ : FileSystem) (path : String) (base : Place)
    (written : List (Place × List UInt8)) (fs : FileSystem) : Prop where
  kept : Kept fs₀.tree fs.tree
  working : fs.workingPlace = fs₀.workingPlace
  stores : Stores skip fs.tree base written
  writable : ∀ e ∈ written, IsWritable path e.1
  directories : ∀ {place entries}, place ≠ [] → skip ∉ place →
    fs.tree.at? (base ++ place) = some (.directory entries) → IsWritable path place

namespace Holds

variable {skip path rest : String} {fs₀ fs fs' : FileSystem} {base : Place} {left : Nat}
  {written : List (Place × List UInt8)}

/-- At first nothing is written. -/
theorem start {entries : List (String × FileTree)}
    (hat : fs.tree.at? base = some (.directory entries)) (hskip : ∀ e ∈ entries, e.1 = skip) :
    Holds skip fs path base [] fs where
  kept := fun hs => ⟨_, hs, rfl⟩
  working := rfl
  stores := .of_entries hat hskip
  writable := List.forall_mem_nil _
  directories := by
    intro place entries' hne hplace hs
    obtain ⟨name, rest, rfl⟩ := List.exists_cons_of_ne_nil hne
    obtain ⟨top, child, htop, hchild, -⟩ := FileTree.exists_entries_of_at?_append hs
    cases hat.symm.trans htop
    exact absurd (hskip _ (FileTree.mem_of_lookup hchild) ▸ List.mem_cons_self) hplace

theorem reaches (h : Holds skip fs₀ path base written fs) {path' : String}
    (hreaches : fs₀.Reaches path' base left) : fs.Reaches path' base left :=
  hreaches.of_kept h.kept h.working

/-- There is no link among what is stored. -/
theorem at?_ne_link (h : Holds skip fs₀ path base written fs) {place : Place}
    (hplace : skip ∉ place) (target : String) :
    fs.tree.at? (base ++ place) ≠ some (.link target) := by
  intro hlink
  rcases h.stores.only hplace hlink with hkind | ⟨contents, heq, -⟩
  · cases hkind
  · cases heq

/-- **Directories that are made** on the way to a file below the path can be written to. -/
theorem createDirectories (h : Holds skip fs₀ path base written fs)
    (hreaches : fs₀.Reaches path base left) (hpath : path ≠ "")
    (hnames : ∀ name ∈ pieces rest, Path.IsName name) (hskip : skip ∉ pieces rest)
    (hcheck : checkPath (Path.join path rest) = .ok ()) {path' : String}
    (hcomponents : Path.components path' <+: Path.components (Path.join path rest))
    (hcreate : fs.createDirectories path' = .ok fs') : Holds skip fs₀ path base written fs' := by
  refine ensureAll_induction (P := Holds skip fs₀ path base written) ?_ h hcreate
  intro p hp fs fs' h hmade
  obtain ⟨entries, hbase⟩ := h.stores.directory
  obtain ⟨place, name, top, hbelow, hat, hnone, hlens, rfl⟩ :=
    exists_eq_put_of_createDirectory (h.reaches hreaches) hbase hpath hnames
      (fun place target hplace => h.at?_ne_link (fun hmem => hskip (hplace.subset hmem)) target)
      ((Path.components_isPrefix_of_mem_ancestors hp).trans hcomponents) hmade
  have hwritable : IsWritable path (place ++ [name]) := by
    refine ⟨?_, fun n hn => ⟨hnames n (hbelow.subset hn), hlens n hn⟩⟩
    exact checkPath_join_of_isPrefix hpath (by simp) hnames hbelow hcheck
  refine ⟨?_, h.working, h.stores.put_empty hat hnone, h.writable, ?_⟩
  · rw [← FileTree.at?_concat hat] at hnone
    exact FileTree.Kept.trans h.kept (FileTree.kept_put_of_eq_none hnone)
  · intro other entries' hne hother hs
    rcases FileTree.at?_put_cases hat hs with ⟨more, heq, hmore⟩ | hsame | ⟨_, _, _, hold, -⟩
    · cases more with
      | nil =>
        rw [List.append_nil, List.append_assoc, List.append_cancel_left_eq] at heq
        exact heq ▸ hwritable
      | cons => cases hmore
    · exact h.directories hne hother hsame
    · exact h.directories hne hother hold

/-- **A file that is written below the path** comes to those that are stored. -/
theorem write (h : Holds skip fs₀ path base written fs) (hreaches : fs₀.Reaches path base left)
    (hpath : path ≠ "") (hnames : ∀ name ∈ pieces rest, Path.IsName name)
    (hskip : skip ∉ pieces rest) (hnew : pieces rest ∉ written.map Prod.fst)
    {contents : List UInt8} (hwrite : fs.write (Path.join path rest) contents = .ok fs') :
    Holds skip fs₀ path base (written ++ [(pieces rest, contents)]) fs' := by
  obtain ⟨hcheck, place, hplace, htree, hworking⟩ := write_eq_ok hwrite
  have hlinks : ∀ place target, place <+: pieces rest →
      fs.tree.at? (base ++ place) ≠ some (.link target) := fun place target hbelow =>
    h.at?_ne_link (fun hmem => hskip (hbelow.subset hmem)) target
  obtain ⟨rfl, hlens⟩ := (h.reaches hreaches).writePlace_eq hpath hnames hlinks hplace
  obtain ⟨parent, name, entries, htarget, hat, hold⟩ := writePlace_eq_ok hplace
  refine ⟨?_, hworking.trans h.working, ?_, ?_, ?_⟩
  · rw [htree, htarget]
    refine FileTree.Kept.trans h.kept (FileTree.kept_put rfl fun old hplaced => hold old ?_)
    rw [← FileTree.at?_concat hat, hplaced]
  · rw [htree]
    exact h.stores.put_file hat htarget.symm hold hskip (pieces_ne_nil rest) hnew
  · refine List.forall_mem_append.2 ⟨h.writable, List.forall_mem_singleton.2 ⟨?_, ?_⟩⟩
    · rw [intercalate_pieces]
      exact hcheck
    · exact fun name hname => ⟨hnames name hname, hlens name hname⟩
  · intro other entries' hne hother hs
    rw [htree, htarget] at hs
    rcases FileTree.at?_put_cases hat hs with ⟨more, -, hmore⟩ | hsame | ⟨_, _, _, hold, -⟩
    · cases more with
      | nil => cases hmore
      | cons => cases hmore
    · exact h.directories hne hother hsame
    · exact h.directories hne hother hold

end Holds
end FileSystem
end PackageListing
