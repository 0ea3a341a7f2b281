/-
# Writing files

A lookup goes piece by piece (`follow_silent`, `follow_parent`, `follow_link`, `follow_name`), and
pieces in a row are looked up in a row (`follow_append`). It sees only of what kind things are, so
it comes to the same place where all is kept (`follow_of_kept`). Writing to a path goes to a place
in a directory where nothing is or another file (`writePlace_eq_ok`), by the way that a lookup of
the path goes then (`follow_of_writePlace`), through as many links. So what is written is read
(`read_of_write`), and something is written, for instance, wherever a plain name is not in use yet
(`write_of_lookup_eq_none`).
-/

import PackageListing.Files.System
import PackageListing.Proofs.Files.Tree

namespace PackageListing
namespace FileSystem

open FileTree

/-! ### Pieces -/

theorem intercalate_concat_nil (mark : List Char) {l : List (List Char)} (hl : l ≠ []) :
    mark.intercalate (l ++ [[]]) = mark.intercalate l ++ mark := by
  induction l with
  | nil => exact absurd rfl hl
  | cons a l ih =>
    cases l with
    | nil => simp [List.intercalate]
    | cons b l =>
      have hmore := ih (List.cons_ne_nil b l)
      simp only [List.intercalate, List.cons_append, List.intersperse_cons_cons, List.flatten_cons,
        List.append_assoc] at hmore ⊢
      rw [hmore]

/-- A path whose last piece is empty is empty or ends in a slash. -/
theorem getLast?_of_splitOn_eq {s : List Char} {l : List (List Char)}
    (h : s.splitOn '/' = l ++ [[]]) (hl : l ≠ []) : s.getLast? = some '/' := by
  have hjoin : ['/'].intercalate (s.splitOn '/') = s := List.intercalate_splitOn '/'
  rw [h, intercalate_concat_nil _ hl] at hjoin
  rw [← hjoin, List.getLast?_concat]

/-- The last piece of a path without a slash after it comes after the other pieces. -/
theorem pieces_eq_of_lastPiece? {path last : String} {before : List String}
    (h : lastPiece? path = some (before, last, false)) :
    pieces path = before ++ [last] ∧ last ≠ "" := by
  rw [lastPiece?] at h
  split at h
  · cases h
  · next first more hdrop =>
    simp only [Option.some.injEq, Prod.mk.injEq, beq_eq_false_iff_ne] at h
    obtain ⟨rfl, rfl, hslash⟩ := h
    rw [pieces] at hdrop ⊢
    rcases List.eq_nil_or_concat (path.toList.splitOn '/') with hnil | ⟨l, w, hconcat⟩
    · rw [hnil] at hdrop
      cases hdrop
    · rw [List.concat_eq_append] at hconcat
      rw [hconcat, List.map_append, List.reverse_append, List.map_singleton,
        List.reverse_singleton, List.singleton_append] at hdrop
      by_cases hw : w = []
      · subst hw
        by_cases hl : l = []
        · subst hl
          cases hdrop
        · exact absurd (getLast?_of_splitOn_eq hconcat hl) hslash
      · have hne : String.ofList w ≠ "" := fun heq => hw (by simpa using heq)
        rw [List.dropWhile_cons_of_neg (by simpa using hne)] at hdrop
        cases hdrop
        exact ⟨by simp [hconcat], hne⟩

/-! ### Lookups -/

section Steps

variable {fs : FileSystem} {place : Place} {entries : List (String × FileTree)}
  (hat : fs.tree.at? place = some (.directory entries))
include hat

theorem follow_silent {piece : String} (h : piece = "" ∨ piece = ".") (links : Nat)
    (rest : List String) : fs.follow links place (piece :: rest) = fs.follow links place rest := by
  rw [follow, hat]
  exact if_pos h

theorem follow_parent (links : Nat) (rest : List String) :
    fs.follow links place (".." :: rest) = fs.follow links place.dropLast rest := by
  rw [follow, hat]
  exact (if_neg (by decide)).trans (if_pos rfl)

variable {piece : String} (hpiece : ¬(piece = "" ∨ piece = ".")) (hparent : piece ≠ "..")
  (hlen : ¬nameLimit < piece.utf8ByteSize)
include hpiece hparent hlen

theorem follow_link {target : String} (hlookup : entries.lookup piece = some (.link target))
    (links : Nat) (rest : List String) :
    fs.follow (links + 1) place (piece :: rest) =
      fs.follow links (startOf place target) (pieces target ++ rest) := by
  rw [follow, hat]
  simp only [if_neg hpiece, if_neg hparent, if_neg hlen, hlookup]

theorem follow_name {t : FileTree} (hlookup : entries.lookup piece = some t)
    (hlink : ∀ target, t ≠ .link target) (links : Nat) (rest : List String) :
    fs.follow links place (piece :: rest) = fs.follow links (place ++ [piece]) rest := by
  rw [follow, hat]
  simp only [if_neg hpiece, if_neg hparent, if_neg hlen, hlookup]

end Steps

/-- A lookup of pieces in a row goes on from where the first of them lead. -/
theorem follow_append {fs : FileSystem} {links left : Nat} {place place' : Place}
    {before : List String} (h : fs.follow links place before = .ok (place', left))
    (after : List String) :
    fs.follow links place (before ++ after) = fs.follow left place' after := by
  -- The lookup goes on past a silent piece, `..`, a link or any other name, and fails otherwise.
  fun_induction follow fs links place before
  case case1 => cases h; rfl
  case case2 hat hpiece ih => rw [List.cons_append, follow_silent hat hpiece, ih h]
  case case3 hat _ ih => rw [List.cons_append, follow_parent hat, ih h]
  case case7 hat hpiece hparent hlen _ hlookup _ ih =>
    rw [List.cons_append, follow_link hat hpiece hparent hlen hlookup, ← List.append_assoc, ih h]
  case case8 hat hpiece hparent hlen _ hlink hlookup ih =>
    rw [List.cons_append, follow_name hat hpiece hparent hlen hlookup hlink, ih h]
  all_goals cases h

/-- **A lookup that succeeds does so wherever all is kept,** and comes to the same place. -/
theorem follow_of_kept {fs fs' : FileSystem} (hkept : Kept fs.tree fs'.tree) {links : Nat}
    {place : Place} {l : List String} {found : Place × Nat}
    (h : fs.follow links place l = .ok found) : fs'.follow links place l = .ok found := by
  fun_induction follow fs links place l
  case case1 => cases h; rw [follow]
  case case2 hat hpiece ih =>
    obtain ⟨_, hat', -⟩ := hkept.directory hat
    rw [follow_silent hat' hpiece, ih h]
  case case3 hat _ ih =>
    obtain ⟨_, hat', -⟩ := hkept.directory hat
    rw [follow_parent hat', ih h]
  case case7 hat hpiece hparent hlen _ hlookup _ ih =>
    obtain ⟨_, hat', hentries⟩ := hkept.directory hat
    obtain ⟨s, hlookup', hkind⟩ := hentries hlookup
    obtain rfl := kind_eq_link.1 hkind
    rw [follow_link hat' hpiece hparent hlen hlookup', ih h]
  case case8 hat hpiece hparent hlen _ hlink hlookup ih =>
    obtain ⟨_, hat', hentries⟩ := hkept.directory hat
    obtain ⟨s, hlookup', hkind⟩ := hentries hlookup
    have hlink' : ∀ target, s ≠ .link target := by
      rintro target rfl
      exact hlink target (kind_eq_link.1 hkind.symm)
    rw [follow_name hat' hpiece hparent hlen hlookup' hlink', ih h]
  all_goals cases h

/-! ### Writing -/

/-- **What is written to is in a directory, and is no directory and no link.** -/
theorem writePlace_eq_ok {fs : FileSystem} {links : Nat} {base place : Place} {path : String}
    (h : fs.writePlace links base path = .ok place) :
    ∃ parent name entries, place = parent ++ [name] ∧
      fs.tree.at? parent = some (.directory entries) ∧
      ∀ old, entries.lookup name = some old → old.kind = .regular := by
  fun_induction writePlace fs links base path
  -- A link at the end leads on; else the place is the one of the last piece.
  case case4 ih => exact ih h
  case case5 links base path parent name named? left hdirectory hnone hsome he =>
    obtain ⟨_, entries, -, -, hat, -, -, -, hnamed⟩ := lastEntry_eq_ok he
    cases h
    refine ⟨parent, name, entries, rfl, hat, fun old hlookup => ?_⟩
    have hold : named? = some old := hnamed.trans hlookup
    cases old with
    | file contents | program tool => rfl
    | link target =>
      cases left with
      | zero => exact absurd rfl (hnone target hold)
      | succ left => exact absurd rfl (hsome target left hold)
    | directory below => exact absurd hold (hdirectory below)
  all_goals cases h

/-- **A lookup comes to the file** that writing to the path has gone to. -/
theorem follow_of_writePlace {fs fs' : FileSystem} (hkept : Kept fs.tree fs'.tree) {links : Nat}
    {base place : Place} {path : String} (h : fs.writePlace links base path = .ok place)
    {contents : List UInt8} (hfile : fs'.tree.at? place = some (.file contents)) :
    ∃ left, fs'.follow links (startOf base path) (pieces path) = .ok (place, left) := by
  fun_induction writePlace fs links base path
  case case4 links base path parent name target left he _ ih =>
    obtain ⟨before, entries, hlast, hfollow, hat, hdot, hparent, hlen, hnamed⟩ := lastEntry_eq_ok he
    obtain ⟨hpieces, hname⟩ := pieces_eq_of_lastPiece? hlast
    obtain ⟨entries', hat', hentries⟩ := hkept.directory hat
    obtain ⟨s, hlookup, hkind⟩ := hentries hnamed.symm
    obtain rfl := kind_eq_link.1 hkind
    rw [hpieces, follow_append (follow_of_kept hkept hfollow),
      follow_link hat' (not_or.2 ⟨hname, hdot⟩) hparent (Nat.not_lt.2 hlen) hlookup,
      List.append_nil]
    exact ih h
  case case5 links base path parent name named? left hdirectory hnone hsome he =>
    obtain ⟨before, entries, hlast, hfollow, hat, hdot, hparent, hlen, hnamed⟩ := lastEntry_eq_ok he
    obtain ⟨hpieces, hname⟩ := pieces_eq_of_lastPiece? hlast
    obtain ⟨entries', hat', -⟩ := hkept.directory hat
    cases h
    rw [at?_concat hat'] at hfile
    refine ⟨left, ?_⟩
    rw [hpieces, follow_append (follow_of_kept hkept hfollow),
      follow_name hat' (not_or.2 ⟨hname, hdot⟩) hparent (Nat.not_lt.2 hlen) hfile
        (fun _ h => nomatch h), follow]
  all_goals cases h

theorem write_eq_ok {fs fs' : FileSystem} {path : String} {contents : List UInt8}
    (h : fs.write path contents = .ok fs') :
    checkPath path = .ok () ∧ ∃ place, fs.writePlace linkLimit fs.workingPlace path = .ok place ∧
      fs'.tree = put (.file contents) fs.tree place ∧ fs'.workingPlace = fs.workingPlace := by
  obtain ⟨_, hcheck, h⟩ := Result.bind_eq_ok.1 h
  obtain ⟨place, hplace, h⟩ := Result.bind_eq_ok.1 h
  cases h
  exact ⟨hcheck, place, hplace, rfl, rfl⟩

theorem get_of_follow {fs : FileSystem} {path : String} {place : Place} {left : Nat} {t : FileTree}
    (hcheck : checkPath path = .ok ())
    (hfollow : fs.follow linkLimit (startOf fs.workingPlace path) (pieces path) = .ok (place, left))
    (hat : fs.tree.at? place = some t) : fs.get path = .ok t := by
  have hresolve : fs.resolve path = .ok place :=
    Result.bind_eq_ok.2 ⟨(), hcheck, Result.bind_eq_ok.2 ⟨_, hfollow, rfl⟩⟩
  exact Result.bind_eq_ok.2 ⟨place, hresolve, by rw [hat]; rfl⟩

/-- A file is read under a plain name that it has in the working directory. -/
theorem read_of_lookup (fs : FileSystem) {entries : List (String × FileTree)}
    (hat : fs.tree.at? fs.workingPlace = some (.directory entries)) {name : String}
    (hcheck : checkPath name = .ok ()) (hpieces : pieces name = [name])
    (hstart : Path.isAbsolute name = false) (hplain : ¬(name = "" ∨ name = "."))
    (hparent : name ≠ "..") (hlen : ¬nameLimit < name.utf8ByteSize) {contents : List UInt8}
    (hfile : entries.lookup name = some (.file contents)) : fs.read name = .ok contents := by
  have hbase : startOf fs.workingPlace name = fs.workingPlace := by
    rw [startOf, hstart]
    rfl
  have hfollow : fs.follow linkLimit (startOf fs.workingPlace name) (pieces name) =
      .ok (fs.workingPlace ++ [name], linkLimit) := by
    rw [hbase, hpieces, follow_name hat hplain hparent hlen hfile (fun _ h => nomatch h), follow]
  have hfound : fs.tree.at? (fs.workingPlace ++ [name]) = some (.file contents) := by
    rw [at?_concat hat, hfile]
  rw [read, get_of_follow hcheck hfollow hfound]
  rfl

/-- **What is written is read:** a file that was written to a path is found under the path, and it
holds what was written. -/
theorem read_of_write {fs fs' : FileSystem} {path : String} {contents : List UInt8}
    (h : fs.write path contents = .ok fs') : fs'.read path = .ok contents := by
  obtain ⟨hcheck, place, hplace, htree, hworking⟩ := write_eq_ok h
  obtain ⟨parent, name, entries, rfl, hat, hold⟩ := writePlace_eq_ok hplace
  have hkept : Kept fs.tree fs'.tree := by
    rw [htree]
    exact kept_put rfl fun old hplaced => hold old (by rw [← at?_concat hat, hplaced])
  have hfile : fs'.tree.at? (parent ++ [name]) = some (.file contents) := by
    rw [htree]
    exact at?_put_concat hat name
  obtain ⟨left, hfollow⟩ := follow_of_writePlace hkept hplace hfile
  rw [← hworking] at hfollow
  rw [read, get_of_follow hcheck hfollow hfile]
  rfl

/-- **A file is written under a name** that is free in the directory that the pieces before it lead
to. -/
theorem write_of_lastPiece? {fs : FileSystem} {path name : String} {before : List String}
    {place : Place} {left : Nat} {entries : List (String × FileTree)}
    (hcheck : checkPath path = .ok ()) (hlast : lastPiece? path = some (before, name, false))
    (hfollow : fs.follow linkLimit (startOf fs.workingPlace path) before = .ok (place, left))
    (hat : fs.tree.at? place = some (.directory entries)) (hdot : name ≠ ".")
    (hparent : name ≠ "..") (hlen : name.utf8ByteSize ≤ nameLimit)
    (hnew : entries.lookup name = none) (contents : List UInt8) :
    fs.write path contents =
      .ok { fs with tree := put (.file contents) fs.tree (place ++ [name]) } := by
  have hdirectory : fs.directoryAt linkLimit (startOf fs.workingPlace path) before =
      .ok (place, entries, left) :=
    Result.bind_eq_ok.2 ⟨_, hfollow, by simp only [hat]; rfl⟩
  have hentry : fs.lastEntry linkLimit fs.workingPlace path = .ok ⟨place, name, none, left⟩ := by
    rw [lastEntry, hlast]
    refine Result.bind_eq_ok.2 ⟨_, hdirectory, ?_⟩
    simp [hdot, hparent, Nat.not_lt.2 hlen, hnew]
  have hplace : fs.writePlace linkLimit fs.workingPlace path = .ok (place ++ [name]) := by
    rw [writePlace]
    split
    all_goals
      rename_i he
      rw [hentry] at he
      cases he
    rfl
  exact Result.bind_eq_ok.2 ⟨(), hcheck, Result.bind_eq_ok.2 ⟨_, hplace, rfl⟩⟩

/-- **A file is written under a plain name** that nothing in the working directory has. -/
theorem write_of_lookup_eq_none (fs : FileSystem) {entries : List (String × FileTree)}
    (hat : fs.tree.at? fs.workingPlace = some (.directory entries)) (name : String)
    (hcheck : checkPath name = .ok ()) (hlast : lastPiece? name = some ([], name, false))
    (hstart : Path.isAbsolute name = false) (hdot : name ≠ ".") (hparent : name ≠ "..")
    (hlen : name.utf8ByteSize ≤ nameLimit) (hnew : entries.lookup name = none)
    (contents : List UInt8) :
    fs.write name contents =
      .ok { fs with tree := put (.file contents) fs.tree (fs.workingPlace ++ [name]) } := by
  have hfollow : fs.follow linkLimit (startOf fs.workingPlace name) [] =
      .ok (fs.workingPlace, linkLimit) := by
    rw [startOf, hstart, follow]
    rfl
  exact write_of_lastPiece? hcheck hlast hfollow hat hdot hparent hlen hnew contents

end FileSystem
end PackageListing
