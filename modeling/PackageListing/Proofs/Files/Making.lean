/-
# Directories that are made

A directory is made under the last piece of a path, in the directory that the pieces before it lead
to (`createDirectory_eq_ok`). When a directory is made with all those above it, this happens for
some of the parents of its path, one after the other (`ensureAll_induction`). Where the path is that
of names below another path, which leads to a directory, nothing is made but what the first of these
names stand for (`exists_eq_put_of_createDirectory`): the parents further up are there already.
-/

import PackageListing.Proofs.Files.Lookup
import PackageListing.Proofs.Path.Ancestors

namespace PackageListing
namespace FileSystem

open FileTree (Place)

/-! ### One directory -/

section

variable {fs fs' : FileSystem} {path p rest last : String} {base : Place} {left : Nat}
  {before : List String} {slash : Bool} {entries : List (String × FileTree)}

/-- What comes after the last piece of a path says nothing. -/
theorem filter_tells_of_lastPiece? (h : lastPiece? path = some (before, last, slash)) :
    last ≠ "" ∧ (pieces path).filter tells = (before ++ [last]).filter tells := by
  rw [lastPiece?] at h
  split at h
  · cases h
  · next last' before' hdrop =>
    cases h
    have hlast : ¬String.isEmpty last = true := by
      have hhead := List.head_dropWhile_not String.isEmpty (l := (pieces path).reverse)
        (by rw [hdrop]; exact List.cons_ne_nil _ _)
      simpa [hdrop] using hhead
    obtain ⟨silent, hsilent, hpieces⟩ : ∃ silent : List String,
        (∀ piece ∈ silent, String.isEmpty piece = true) ∧
          pieces path = before'.reverse ++ [last] ++ silent := by
      refine ⟨((pieces path).reverse.takeWhile String.isEmpty).reverse, fun piece hpiece => ?_, ?_⟩
      · exact List.all_eq_true.1 List.all_takeWhile piece (List.mem_reverse.1 hpiece)
      · have happend := congrArg List.reverse
          (List.takeWhile_append_dropWhile (p := String.isEmpty) (l := (pieces path).reverse))
        rw [hdrop, List.reverse_append, List.reverse_cons, List.reverse_reverse] at happend
        exact happend.symm
    refine ⟨mt String.isEmpty_iff.2 hlast, ?_⟩
    have hnone : silent.filter tells = [] := List.filter_eq_nil_iff.2 fun piece hpiece => by
      rw [String.isEmpty_iff.1 (hsilent piece hpiece)]
      decide
    rw [hpieces, List.filter_append, hnone, List.append_nil]

/-- **A directory is made** under the last piece of its path, where nothing is. -/
theorem createDirectory_eq_ok (h : fs.createDirectory path = .ok fs') :
    ∃ before last slash parent left entries,
      lastPiece? path = some (before, last, slash) ∧
      fs.follow linkLimit (startOf fs.workingPlace path) before = .ok (parent, left) ∧
      fs.tree.at? parent = some (.directory entries) ∧ ¬(last = "." ∨ last = "..") ∧
      last.utf8ByteSize ≤ nameLimit ∧ entries.lookup last = none ∧
      fs' = { fs with tree := FileTree.put FileTree.empty fs.tree (parent ++ [last]) } := by
  obtain ⟨_, -, h⟩ := Result.bind_eq_ok.1 h
  split at h
  · cases h
  · next before last slash hlast =>
    obtain ⟨⟨parent, entries, left⟩, hdirectory, h⟩ := Result.bind_eq_ok.1 h
    obtain ⟨hfollow, hat⟩ := directoryAt_eq_ok hdirectory
    simp only at h
    split at h
    · cases h
    · next hplain =>
      split at h
      · cases h
      · next hlen =>
        split at h
        · cases h
        · next hfree =>
          cases h
          rw [Bool.or_eq_true, decide_eq_true_eq, decide_eq_true_eq] at hplain
          exact ⟨before, last, slash, parent, left, entries, hlast, hfollow, hat, hplain,
            Nat.le_of_not_lt hlen, Option.not_isSome_iff_eq_none.1 hfree, rfl⟩

/-- What pieces lead to is named by the last of them. -/
theorem lookup_ne_none_of_follow {links : Nat} {found : Place × Nat}
    (h : fs.follow links base [last] = .ok found)
    (hat : fs.tree.at? base = some (.directory entries))
    (hlast : ¬(last = "" ∨ last = ".")) (hparent : last ≠ "..") : entries.lookup last ≠ none := by
  intro hnone
  rw [follow, hat] at h
  simp only [if_neg hlast, if_neg hparent, hnone] at h
  split at h
  · cases h
  · cases h

/-- The pieces of names below a path tell what those of the path do, and the names. -/
theorem filter_tells_pieces_join (hpath : path ≠ "")
    (hnames : ∀ name ∈ pieces rest, Path.IsName name) :
    (pieces (Path.join path rest)).filter tells = (pieces path).filter tells ++ pieces rest := by
  obtain ⟨before, ⟨-, -, hlead⟩, hcuts⟩ := Path.leads_of_join hpath (isAbsolute_of_pieces hnames)
  have hrest : (pieces rest).filter tells = pieces rest :=
    List.filter_eq_self.2 fun name hname =>
      tells_iff.2 (not_or.2 ⟨(hnames name hname).1, (hnames name hname).2.1⟩)
  have hsame : (pieces path).filter tells = (before.map String.ofList).filter tells := by
    rw [pieces, ← Path.cuts]
    rcases hlead with hlead | hlead
    · rw [hlead]
    · rw [hlead, List.map_append, List.filter_append]
      exact List.append_nil _
  rw [hsame, ← hrest, ← List.filter_append]
  refine congrArg _ ?_
  rw [pieces, ← Path.cuts, hcuts, List.map_append]
  rfl

/-- **What is made of names below a path,** which leads to a directory, are directories that the
first of the names stand for. -/
theorem exists_eq_put_of_createDirectory (hreaches : fs.Reaches path base left)
    (hbase : fs.tree.at? base = some (.directory entries)) (hpath : path ≠ "")
    (hnames : ∀ name ∈ pieces rest, Path.IsName name)
    (hlinks : ∀ place target, place <+: pieces rest →
      fs.tree.at? (base ++ place) ≠ some (.link target))
    (hcomponents : Path.components p <+: Path.components (Path.join path rest))
    (hcreate : fs.createDirectory p = .ok fs') :
    ∃ place name top, place ++ [name] <+: pieces rest ∧
      fs.tree.at? (base ++ place) = some (.directory top) ∧ top.lookup name = none ∧
      (∀ n ∈ place ++ [name], n.utf8ByteSize ≤ nameLimit) ∧
      fs' = { fs with tree := FileTree.put FileTree.empty fs.tree (base ++ place ++ [name]) } := by
  obtain ⟨before, last, slash, parent, left', top, hlast, hfollow, hat, hplain, hlen, hnone,
    hmade⟩ := createDirectory_eq_ok hcreate
  obtain ⟨hempty, htells⟩ := filter_tells_of_lastPiece? hlast
  rw [not_or] at hplain
  have hlastTells : tells last = true := tells_iff.2 (not_or.2 ⟨hempty, hplain.1⟩)
  rw [List.filter_append, List.filter_cons_of_pos hlastTells, List.filter_nil] at htells
  have hstart : startOf fs.workingPlace p = startOf fs.workingPlace path := by
    have hne : Path.components p ≠ [] := by
      intro hnil
      rw [filter_tells_pieces, hnil] at htells
      simp at htells
    obtain ⟨before', hleads, hcuts⟩ := Path.leads_of_join hpath (isAbsolute_of_pieces hnames)
    rw [← startOf_of_leads hleads (Path.cuts_ne_nil rest) hcuts, startOf, startOf,
      Path.isAbsolute_of_components_isPrefix hcomponents hne]
  rw [hstart] at hfollow
  have hprefix : before.filter tells ++ [last] <+: (pieces path).filter tells ++ pieces rest := by
    rw [← htells, ← filter_tells_pieces_join hpath hnames, filter_tells_pieces,
      filter_tells_pieces]
    exact hcomponents.filterMap _
  -- The pieces of the path itself lead to something, so none of them is the last one here.
  have hbelow : ¬before.filter tells ++ [last] <+: (pieces path).filter tells := by
    rintro ⟨more, hmore⟩
    have hlead : fs.follow linkLimit (startOf fs.workingPlace path) (before ++ ([last] ++ more)) =
        .ok (base, left) := by
      refine follow_of_filter_eq hreaches hbase ?_
      have hall : (before.filter tells ++ [last] ++ more).filter tells =
          (pieces path).filter tells := by
        rw [hmore, List.filter_filter]
        simp
      rw [← hall, List.filter_append, List.filter_append, List.filter_append, List.filter_append,
        List.filter_filter, List.append_assoc]
      simp
    rw [follow_append hfollow] at hlead
    obtain ⟨_, hfound, -⟩ := exists_follow_of_append hlead
    exact lookup_ne_none_of_follow hfound hat (not_or.2 ⟨hempty, hplain.1⟩) hplain.2 hnone
  obtain ⟨taken, htaken⟩ := (List.prefix_or_prefix_of_prefix hprefix
    (List.prefix_append _ _)).resolve_left hbelow
  rcases List.eq_nil_or_concat taken with rfl | ⟨place, name, rfl⟩
  · exact absurd ⟨[], by rw [List.append_nil, ← htaken, List.append_nil]⟩ hbelow
  · rw [List.concat_eq_append, ← List.append_assoc] at htaken
    obtain ⟨hbefore, hname⟩ := List.append_inj' htaken rfl
    obtain rfl := List.singleton_inj.1 hname
    have hshort : place ++ [name] <+: pieces rest := by
      rw [← htaken, List.append_assoc, List.prefix_append_right_inj] at hprefix
      exact hprefix
    have hplace : place <+: pieces rest := (List.prefix_append _ _).trans hshort
    have hfound : fs.follow left base place = .ok (parent, left') := by
      rw [← follow_append hreaches]
      refine follow_of_filter_eq hfollow hat ?_
      rw [List.filter_append, ← hbefore]
      refine congrArg _ (List.filter_eq_self.2 fun n hn => ?_)
      have hname := hnames n (hplace.subset hn)
      exact tells_iff.2 (not_or.2 ⟨hname.1, hname.2.1⟩)
    obtain ⟨heq, hlens⟩ := eq_of_follow_names hfound (fun n hn => hnames n (hplace.subset hn))
      fun other target hother => hlinks other target (hother.trans hplace)
    obtain rfl : parent = base ++ place := congrArg Prod.fst heq
    exact ⟨place, name, top, hshort, hat, hnone,
      List.forall_mem_append.2 ⟨hlens, List.forall_mem_singleton.2 hlen⟩, hmade⟩

end

/-! ### A directory with those above it -/

section

variable {fs : FileSystem} {P : FileSystem → Prop}

theorem ensureDirectory_induction {fs' : FileSystem} {path : String}
    (hmade : ∀ {fs'}, fs.createDirectory path = .ok fs' → P fs') (hfs : P fs)
    (h : fs.ensureDirectory path = .ok fs') : P fs' := by
  rw [ensureDirectory] at h
  split at h
  · next hcreate =>
    cases h
    exact hmade hcreate
  · split at h
    · cases h
      exact hfs
    · cases h

/-- **What holds while directories are made** one by one holds when all are made. -/
theorem ensureAll_induction {fs' : FileSystem} {paths : List String}
    (hmade : ∀ path ∈ paths, ∀ {fs fs'}, P fs → fs.createDirectory path = .ok fs' → P fs')
    (hfs : P fs) (h : fs.ensureAll paths = .ok fs') : P fs' := by
  induction paths generalizing fs fs' with
  | nil =>
    cases h
    exact hfs
  | cons path parents ih =>
    obtain ⟨hpath, hparents⟩ := List.forall_mem_cons.1 hmade
    rw [ensureAll] at h
    split at h
    · cases h
      exact hfs
    · split at h
      · obtain ⟨fs₁, hall, h⟩ := Result.bind_eq_ok.1 h
        have hfs₁ := ih hparents hfs hall
        exact ensureDirectory_induction (hpath hfs₁) hfs₁ h
      · exact ensureDirectory_induction (hpath hfs) hfs h

end

theorem createDirectories_of_createDirectory {fs fs' : FileSystem} {path : String}
    (hpath : path ≠ "") (h : fs.createDirectory path = .ok fs') :
    fs.createDirectories path = .ok fs' := by
  obtain ⟨rest, hrest⟩ : ∃ rest, Path.ancestors path = path :: rest := by
    rw [Path.ancestors]
    cases path.length with
    | zero => exact ⟨[], rfl⟩
    | succ steps =>
      rw [Path.ancestorsFrom]
      split
      · exact ⟨_, rfl⟩
      · exact ⟨_, rfl⟩
  rw [createDirectories, hrest, ensureAll, if_neg (mt String.isEmpty_iff.1 hpath), h,
    ensureDirectory, h]

end FileSystem
end PackageListing
