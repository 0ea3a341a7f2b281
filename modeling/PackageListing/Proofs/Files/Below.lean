/-
# Reading what is stored below a directory

The paths that a walk comes to are those of names that are joined to the path of the directory
(`FileTree.pathBelow_eq_join`), and they lead to the places of the names (`Reaches.pathBelow`). A
path that files were written below may be spelt longer than the one that they are read below
(`IsWithin`): what was a path to write to is one to read from then
(`IsWritable.checkPath_pathBelow`). So each file that is stored is read by the path that the walk
has for it (`Holds.read_pathBelow`), each directory on the way is listed
(`Holds.exists_get_of_mem_visits`), and what is not stored is no file (`Holds.isFile_eq_false`).
-/

import PackageListing.Proofs.Files.Walk

namespace PackageListing

namespace FileTree

theorem memberPath_eq_join {path name : String} (hpath : path ≠ "")
    (hname : Path.isAbsolute name = false) : memberPath path name = Path.join path name := by
  obtain ⟨front, c, hconcat⟩ := Path.exists_concat_of_ne_empty hpath
  refine String.toList_inj.1 ?_
  rw [Path.toList_join_concat hconcat hname, memberPath, String.toList_append,
    String.toList_append, hconcat, List.getLast?_concat]
  by_cases hc : c = '/'
  · rw [if_pos (congrArg some hc), if_pos hc, String.toList_empty, List.append_nil]
  · rw [if_neg (hc ∘ Option.some.inj), if_neg hc, List.append_assoc]
    rfl

theorem intercalate_cons_cons (first second : String) (rest : List String) :
    "/".intercalate (first :: second :: rest) =
      first ++ ("/" ++ "/".intercalate (second :: rest)) := by
  refine String.toList_inj.1 ?_
  rw [String.toList_intercalate, List.map_cons, List.map_cons, List.intercalate_cons_cons,
    String.toList_append, String.toList_append, String.toList_intercalate, List.append_assoc]
  rfl

/-- **The paths of a walk** are those of names below its directory. -/
theorem pathBelow_eq_join {path : String} {place : Place} (hpath : path ≠ "") (hne : place ≠ [])
    (hnames : ∀ name ∈ place, Path.IsName name) :
    pathBelow path place = Path.join path ("/".intercalate place) := by
  induction place generalizing path with
  | nil => exact absurd rfl hne
  | cons first place ih =>
    obtain ⟨hfirst, hplace⟩ := List.forall_mem_cons.1 hnames
    have hmember := memberPath_eq_join hpath (Path.isAbsolute_of_isName hfirst)
    have hbelow : pathBelow path (first :: place) = pathBelow (Path.join path first) place := by
      rw [← hmember]
      rfl
    rw [hbelow]
    cases place with
    | nil => exact congrArg (Path.join path) String.intercalate_singleton.symm
    | cons second place =>
      have hjoin := Path.join_ne_empty hpath (Path.isAbsolute_of_isName hfirst)
      have hrest := FileSystem.isAbsolute_intercalate (List.cons_ne_nil second place) hplace
      rw [ih hjoin (List.cons_ne_nil _ _) hplace, Path.join_eq_append hjoin hrest,
        Path.join_join_empty hpath hfirst,
        Path.join_eq_append hpath (Path.isAbsolute_of_isName hfirst),
        Path.join_eq_append hpath (FileSystem.isAbsolute_intercalate (List.cons_ne_nil _ _) hnames),
        intercalate_cons_cons, String.append_assoc, String.append_assoc]

theorem pathBelow_ne_empty {path : String} (hpath : path ≠ "") (place : Place) :
    pathBelow path place ≠ "" := by
  induction place generalizing path with
  | nil => exact hpath
  | cons name place ih =>
    refine ih fun hempty => hpath ?_
    rw [memberPath, String.append_eq_empty_iff, String.append_eq_empty_iff] at hempty
    exact hempty.1.1

/-- What a walk comes to at a place is called by the last name of the place. -/
theorem fileName?_pathBelow {path name : String} (hpath : path ≠ "") (hname : Path.IsName name)
    (place : Place) : Path.fileName? (pathBelow path (place ++ [name])) = some name := by
  have hmember : pathBelow path (place ++ [name]) = memberPath (pathBelow path place) name :=
    List.foldl_concat memberPath path name place
  have hbelow := pathBelow_ne_empty hpath place
  rw [hmember, memberPath_eq_join hbelow (Path.isAbsolute_of_isName hname),
    Path.fileName?_join hbelow hname]

end FileTree

namespace FileSystem

open FileTree (Place pathBelow)

/-! ### Texts that are paths -/

/-- The absolute form of a path ends in the path. -/
theorem exists_absolute_eq (fs : FileSystem) (path : String) :
    ∃ before, fs.absolute path = before ++ path := by
  rw [absolute]
  split
  · exact ⟨"", String.empty_append.symm⟩
  · next hpath =>
    rw [Bool.not_eq_true] at hpath
    exact ⟨_, Path.join_eq_append (workingDirectory_ne_empty fs) hpath⟩

theorem absolute_ne_empty (fs : FileSystem) {path : String} (hpath : path ≠ "") :
    fs.absolute path ≠ "" := by
  obtain ⟨before, hbefore⟩ := fs.exists_absolute_eq path
  rw [hbefore, Ne, String.append_eq_empty_iff]
  exact fun h => hpath h.2

theorem isWithin_absolute (fs : FileSystem) {dir path : String} (hpath : path ≠ "")
    (h : Path.IsWithin dir path) : Path.IsWithin dir (fs.absolute path) := by
  obtain ⟨before, hbefore⟩ := fs.exists_absolute_eq path
  rw [hbefore]
  exact h.append before hpath

theorem absolute_of_workingPlace_eq {fs fs' : FileSystem}
    (h : fs'.workingPlace = fs.workingPlace) (path : String) :
    fs'.absolute path = fs.absolute path := by
  rw [absolute, absolute, workingDirectory, workingDirectory, h]

/-- A directory that is no longer than a path can be looked up where the path was written to. -/
theorem checkPath_of_isWithin {path dir rest : String} (hcheck : checkPath (Path.join path rest) =
    .ok ()) (hpath : path ≠ "") (hdir : dir ≠ "") (hrest : Path.isAbsolute rest = false)
    (hwithin : Path.IsWithin dir path) : checkPath dir = .ok () := by
  obtain ⟨before, after, htext⟩ := hwithin
  obtain ⟨slash, hslash⟩ := Path.exists_join_empty hdir
  rw [Path.join_eq_append hpath hrest, htext, hslash] at hcheck
  have hparts : checkPath (before ++ dir ++ (slash ++ after ++ rest) ++ "") = .ok () := by
    simpa only [String.append_assoc, String.append_empty] using hcheck
  have hpart := checkPath_of_parts hparts (by rwa [String.append_empty])
  rwa [String.append_empty] at hpart

section

variable {skip path dir : String} {fs₀ fs : FileSystem} {base place : Place} {left : Nat}
  {written : List (Place × List UInt8)} {contents : List UInt8} {t : FileTree}

/-- **A path that a walk comes to** is a path, if files were written below one as long. -/
theorem IsWritable.checkPath_pathBelow (h : IsWritable path place) (hpath : path ≠ "")
    (hdir : dir ≠ "") (hwithin : Path.IsWithin dir path) (hne : place ≠ []) :
    checkPath (pathBelow dir place) = .ok () := by
  obtain ⟨hcheck, hnames⟩ := h
  obtain ⟨before, gap, htext⟩ := hwithin
  have hplain : ∀ name ∈ place, Path.IsName name := fun name hname => (hnames name hname).1
  have hrest := isAbsolute_intercalate hne hplain
  rw [Path.join_eq_append hpath hrest, htext] at hcheck
  have hjoin := Path.join_ne_empty hdir hrest
  rw [Path.join_eq_append hdir hrest] at hjoin
  rw [FileTree.pathBelow_eq_join hdir hne hplain, Path.join_eq_append hdir hrest]
  exact checkPath_of_parts hcheck hjoin

/-- **A path that a walk comes to** leads to the place that the walk comes to. -/
theorem Reaches.pathBelow (h : fs.Reaches dir base left) (hdir : dir ≠ "") (hne : place ≠ [])
    (hnames : ∀ name ∈ place, Path.IsName name ∧ name.utf8ByteSize ≤ nameLimit)
    (hat : fs.tree.at? (base ++ place) = some t) (hlink : ∀ target, t ≠ .link target) :
    fs.Reaches (FileTree.pathBelow dir place) (base ++ place) left := by
  have hplain : ∀ name ∈ place, Path.IsName name := fun name hname => (hnames name hname).1
  have hpieces := pieces_intercalate hne fun name hname => (hplain name hname).2.2.2
  have hnamed : ∀ name ∈ pieces ("/".intercalate place), Path.IsName name := by rwa [hpieces]
  have hfollow := h.follow_join hdir hnamed
  rw [FileTree.pathBelow_eq_join hdir hne hplain, Reaches, hfollow, hpieces]
  refine follow_names (fun name hname => ?_) hat hlink left
  exact isPlain_of_isName (hnames name hname).1 (hnames name hname).2

/-- **What is stored is read** by the path that a walk comes to. -/
theorem Holds.read_pathBelow (h : Holds skip fs₀ path base written fs) (hpath : path ≠ "")
    (hdir : dir ≠ "") (hreaches : fs.Reaches dir base left) (hwithin : Path.IsWithin dir path)
    (hmem : (place, contents) ∈ written) (hne : place ≠ []) :
    fs.read (FileTree.pathBelow dir place) = .ok contents := by
  have hwritable := h.writable _ hmem
  have hat := (h.stores.all hmem).2
  have hcheck := hwritable.checkPath_pathBelow hpath hdir hwithin hne
  have hget := (hreaches.pathBelow hdir hne hwritable.2 hat nofun).get_eq_ok hcheck hat
  rw [read, hget]
  rfl

/-- **Each directory that a walk comes to** is listed by the path that the walk has for it. -/
theorem Holds.exists_get_of_mem_visits {entries : List (String × FileTree)} {v : String × FileTree}
    (h : Holds skip fs₀ path base written fs) (hpath : path ≠ "") (hdir : dir ≠ "")
    (hreaches : fs.Reaches dir base left) (hwithin : Path.IsWithin dir path)
    (hcheck : checkPath dir = .ok ()) (hat : fs.tree.at? base = some (.directory entries))
    (hmem : v ∈ (FileTree.directory entries).visits skip dir)
    (hdirectory : v.2.isDirectory = true) : ∃ t, fs.get v.1 = .ok t := by
  rw [FileTree.visits_eq, List.mem_map] at hmem
  obtain ⟨⟨place, s⟩, hmem, rfl⟩ := hmem
  obtain ⟨hskip, hs⟩ := (FileTree.mem_walkPlaces_iff (h.stores.distinct_directory hat)).1 hmem
  have hbelow : fs.tree.at? (base ++ place) = some s := by
    rw [FileTree.at?_append, hat, Option.bind_some]
    exact hs
  by_cases hne : place = []
  · subst hne
    exact ⟨_, hreaches.get_eq_ok hcheck hat⟩
  · cases s with
    | directory entries' =>
      have hwritable := h.directories hne hskip hbelow
      exact ⟨_, (hreaches.pathBelow hdir hne hwritable.2 hbelow nofun).get_eq_ok
        (hwritable.checkPath_pathBelow hpath hdir hwithin hne) hbelow⟩
    | file _ | program _ | link _ => cases hdirectory

/-- **What is not stored is no file.** -/
theorem Holds.isFile_eq_false {rest : String} (h : Holds skip fs₀ path base written fs)
    (hdir : dir ≠ "") (hreaches : fs.Reaches dir base left)
    (hnames : ∀ name ∈ pieces rest, Path.IsName name) (hskip : skip ∉ pieces rest)
    (hnew : pieces rest ∉ written.map Prod.fst) : fs.isFile (Path.join dir rest) = false := by
  rw [isFile]
  cases hget : fs.get (Path.join dir rest) with
  | error e => rfl
  | ok t =>
    obtain ⟨-, place, left', hfound, hat⟩ := exists_reaches_of_get hget
    rw [Reaches, hreaches.follow_join hdir hnames] at hfound
    obtain ⟨heq, -⟩ := eq_of_follow_names hfound hnames fun place target hplace =>
      h.at?_ne_link (fun hmem => hskip (hplace.subset hmem)) target
    cases heq
    rcases h.stores.only hskip hat with hkind | ⟨contents, -, hmem⟩
    · obtain ⟨entries, rfl⟩ := FileTree.kind_eq_directory.1 hkind
      rfl
    · exact absurd (List.mem_map_of_mem hmem) hnew

end

end FileSystem
end PackageListing
