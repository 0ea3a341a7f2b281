/-
# Where paths lead

A path that leads to a directory (`Reaches`) does so however it is spelt: the pieces that say
nothing do not matter (`follow_of_filter_eq`), so that all paths with the same components lead there
(`Reaches.of_components_eq`), and with the working directory before it a path leads where it did
(`Reaches.absolute`). What is joined to the path is looked up from where it leads
(`Reaches.follow_join`). Where no link is among what they name, the names that are joined lead to
the place that they spell (`eq_of_follow_names`), and this is the place that a file is written to
(`Reaches.writePlace_eq`).
-/

import PackageListing.Proofs.Files.Plain
import PackageListing.Proofs.Path

namespace PackageListing
namespace FileSystem

open FileTree (Place Kept)

/-! ### Pieces -/

/-- Whether a piece leads away from where it stands. -/
def tells (piece : String) : Bool :=
  !(piece == "" || piece == ".")

theorem tells_iff {piece : String} : tells piece = true ↔ ¬(piece = "" ∨ piece = ".") := by
  simp [tells]

/-- The pieces that tell something are the texts of the components. -/
theorem filter_tells_pieces (path : String) :
    (pieces path).filter tells = (Path.components path).filterMap Component.text? := by
  have htells : (tells ∘ String.ofList) = fun piece => !Path.isSilent piece := by
    funext piece
    have hempty : (String.ofList piece = "") ↔ piece = [] := by
      rw [← String.toList_inj, String.toList_ofList]
      rfl
    have hdot : (String.ofList piece = ".") ↔ piece = ['.'] := by
      rw [← String.toList_inj, String.toList_ofList]
      rfl
    rw [Bool.eq_iff_iff, Function.comp_apply, tells_iff, hempty, hdot, Path.isSilent,
      Path.component?]
    split
    · next h => simp [h]
    · next h =>
      split
      · simp [h]
      · simp [h]
  rw [Path.filterMap_text?_components, ← htells, ← List.filter_map]
  rfl

theorem pieces_ne_nil (path : String) : pieces path ≠ [] :=
  fun hnil => Path.cuts_ne_nil path (List.map_eq_nil_iff.1 hnil)

/-- Names with slashes between them are the pieces of their text. -/
theorem pieces_intercalate {names : List String} (hne : names ≠ [])
    (hnames : ∀ name ∈ names, '/' ∉ name.toList) : pieces ("/".intercalate names) = names := by
  refine (congrArg (List.map String.ofList) (Path.cuts_intercalate hne hnames)).trans ?_
  rw [List.map_map]
  exact List.map_id'' (fun _ => String.ofList_toList) names

theorem intercalate_pieces (path : String) : "/".intercalate (pieces path) = path := by
  have hcuts : (Path.cuts path).map (String.toList ∘ String.ofList) = Path.cuts path :=
    List.map_id'' (fun _ => String.toList_ofList) _
  refine String.toList_inj.1 ?_
  rw [String.toList_intercalate, pieces, List.map_map]
  exact (congrArg _ hcuts).trans (Path.intercalate_cuts path)

section Silent

variable {fs : FileSystem} {place : Place} {entries : List (String × FileTree)}
  (hat : fs.tree.at? place = some (.directory entries))
include hat

theorem follow_silents {silent : List String} (hsilent : ∀ piece ∈ silent, ¬tells piece = true)
    (links : Nat) (rest : List String) :
    fs.follow links place (silent ++ rest) = fs.follow links place rest := by
  induction silent with
  | nil => rfl
  | cons piece silent ih =>
    obtain ⟨hpiece, hsilent⟩ := List.forall_mem_cons.1 hsilent
    rw [List.cons_append, follow_silent hat (Classical.not_not.1 (mt tells_iff.2 hpiece)),
      ih hsilent]

end Silent

/-- **Pieces that say nothing do not matter** on the way to a directory. -/
theorem follow_of_filter_eq {fs : FileSystem} {links : Nat} {place : Place} {l l' : List String}
    {found : Place × Nat} {entries : List (String × FileTree)}
    (h : fs.follow links place l = .ok found)
    (hfound : fs.tree.at? found.1 = some (.directory entries))
    (hfilter : l'.filter tells = l.filter tells) : fs.follow links place l' = .ok found := by
  -- Each step of the one lookup is taken by the other, after some pieces that say nothing.
  fun_induction follow fs links place l generalizing l'
  case case1 =>
    cases h
    have hsilent : ∀ piece ∈ l', ¬tells piece = true := List.filter_eq_nil_iff.1 hfilter
    rw [← List.append_nil l', follow_silents hfound hsilent, follow]
  case case2 hat hpiece ih =>
    refine ih h ?_
    rw [hfilter, List.filter_cons_of_neg (mt tells_iff.1 (not_not_intro hpiece))]
  case case3 hat hpiece ih =>
    rw [List.filter_cons_of_pos (tells_iff.2 hpiece)] at hfilter
    obtain ⟨silent, l'', rfl, hsilent, -, hrest⟩ := List.filter_eq_cons_iff.1 hfilter
    rw [follow_silents hat hsilent, follow_parent hat, ih h hrest]
  case case7 hat hpiece hparent hlen _ hlookup _ ih =>
    rw [List.filter_cons_of_pos (tells_iff.2 hpiece)] at hfilter
    obtain ⟨silent, l'', rfl, hsilent, -, hrest⟩ := List.filter_eq_cons_iff.1 hfilter
    rw [follow_silents hat hsilent, follow_link hat hpiece hparent hlen hlookup]
    refine ih h ?_
    rw [List.filter_append, List.filter_append, hrest]
  case case8 hat hpiece hparent hlen _ hlink hlookup ih =>
    rw [List.filter_cons_of_pos (tells_iff.2 hpiece)] at hfilter
    obtain ⟨silent, l'', rfl, hsilent, -, hrest⟩ := List.filter_eq_cons_iff.1 hfilter
    rw [follow_silents hat hsilent, follow_name hat hpiece hparent hlen hlookup hlink, ih h hrest]
  all_goals cases h

/-- A lookup of pieces in a row that succeeds has come through the first of them. -/
theorem exists_follow_of_append {fs : FileSystem} {links : Nat} {place : Place}
    {before after : List String} {found : Place × Nat}
    (h : fs.follow links place (before ++ after) = .ok found) :
    ∃ middle, fs.follow links place before = .ok middle ∧
      fs.follow middle.2 middle.1 after = .ok found := by
  fun_induction follow fs links place before
  case case1 => exact ⟨_, rfl, h⟩
  case case2 hat hpiece ih =>
    rw [List.cons_append, follow_silent hat hpiece] at h
    exact ih h
  case case3 hat _ ih =>
    rw [List.cons_append, follow_parent hat] at h
    exact ih h
  case case7 hat hpiece hparent hlen _ hlookup _ ih =>
    rw [List.cons_append, follow_link hat hpiece hparent hlen hlookup, ← List.append_assoc] at h
    exact ih h
  case case8 hat hpiece hparent hlen _ hlink hlookup ih =>
    rw [List.cons_append, follow_name hat hpiece hparent hlen hlookup hlink] at h
    exact ih h
  -- Where the first pieces fail, the row fails with them.
  all_goals
    rw [List.cons_append, follow] at h
    simp only [*, if_false, if_true, reduceCtorEq] at h

/-- What pieces lead on from is a directory. -/
theorem exists_entries_of_follow {fs : FileSystem} {links : Nat} {place : Place} {piece : String}
    {rest : List String} {found : Place × Nat}
    (h : fs.follow links place (piece :: rest) = .ok found) :
    ∃ entries, fs.tree.at? place = some (.directory entries) := by
  rw [follow] at h
  split at h
  · next entries hat => exact ⟨entries, hat⟩
  · cases h
  · cases h

/-- **Names without links among them** lead to the place that they spell. -/
theorem eq_of_follow_names {fs : FileSystem} {links : Nat} {base : Place} {names : List String}
    {found : Place × Nat} (h : fs.follow links base names = .ok found)
    (hnames : ∀ name ∈ names, Path.IsName name)
    (hlinks : ∀ place target, place <+: names → fs.tree.at? (base ++ place) ≠ some (.link target)) :
    found = (base ++ names, links) ∧ ∀ name ∈ names, name.utf8ByteSize ≤ nameLimit := by
  induction names generalizing base with
  | nil =>
    rw [follow] at h
    cases h
    exact ⟨by rw [List.append_nil], List.forall_mem_nil _⟩
  | cons name names ih =>
    obtain ⟨⟨hempty, hdot, hdots, -⟩, hnames⟩ := List.forall_mem_cons.1 hnames
    obtain ⟨entries, hat⟩ := exists_entries_of_follow h
    have hstep : ∀ target, entries.lookup name ≠ some (.link target) := by
      intro target
      rw [← FileTree.at?_concat hat]
      exact hlinks [name] target ⟨names, rfl⟩
    rw [follow, hat] at h
    simp only [if_neg (not_or.2 ⟨hempty, hdot⟩), if_neg hdots] at h
    split at h
    · cases h
    · next hlen =>
      split at h
      · cases h
      · next target hlookup => exact absurd hlookup (hstep target)
      · obtain ⟨hfound, hlens⟩ := ih h hnames fun place target hplace => by
          rw [List.append_assoc]
          exact hlinks (name :: place) target ((List.prefix_cons_inj name).2 hplace)
        rw [List.append_assoc] at hfound
        exact ⟨hfound, List.forall_mem_cons.2 ⟨Nat.le_of_not_lt hlen, hlens⟩⟩

/-! ### Paths -/

/-- A path leads to a place, and the lookup may follow so many links from there. -/
def Reaches (fs : FileSystem) (path : String) (place : Place) (left : Nat) : Prop :=
  fs.follow linkLimit (startOf fs.workingPlace path) (pieces path) = .ok (place, left)

section

variable {fs fs' : FileSystem} {path path' : String} {place : Place} {left : Nat}
  {entries : List (String × FileTree)} {t : FileTree}

theorem Reaches.get_eq_ok (h : fs.Reaches path place left) (hcheck : checkPath path = .ok ())
    (hat : fs.tree.at? place = some t) : fs.get path = .ok t :=
  get_of_follow hcheck h hat

theorem exists_reaches_of_get (h : fs.get path = .ok t) :
    checkPath path = .ok () ∧ ∃ place left, fs.Reaches path place left ∧
      fs.tree.at? place = some t := by
  obtain ⟨place, hresolve, h⟩ := Result.bind_eq_ok.1 h
  obtain ⟨_, hcheck, hresolve⟩ := Result.bind_eq_ok.1 hresolve
  obtain ⟨⟨place', left⟩, hfollow, hplace⟩ := Result.bind_eq_ok.1 hresolve
  cases hplace
  refine ⟨hcheck, place', left, hfollow, ?_⟩
  split at h
  · next t' hat =>
    cases h
    exact hat
  · cases h

theorem Reaches.of_kept (h : fs.Reaches path place left) (hkept : Kept fs.tree fs'.tree)
    (hworking : fs'.workingPlace = fs.workingPlace) : fs'.Reaches path place left := by
  rw [Reaches, hworking]
  exact follow_of_kept hkept h

/-- **Paths with the same components** lead to the same directory. -/
theorem Reaches.of_components_eq (h : fs.Reaches path place left)
    (hat : fs.tree.at? place = some (.directory entries))
    (hcomponents : Path.components path' = Path.components path) :
    fs.Reaches path' place left := by
  have hstart : startOf fs.workingPlace path' = startOf fs.workingPlace path := by
    rw [startOf, startOf, Path.isAbsolute_eq_contains, hcomponents, ← Path.isAbsolute_eq_contains]
  rw [Reaches, hstart]
  refine follow_of_filter_eq h hat ?_
  rw [filter_tells_pieces, filter_tells_pieces, hcomponents]

/-- The pieces that a path leads with lead where it does. -/
theorem Reaches.follow_before {before : List (List Char)} (h : fs.Reaches path place left)
    (hleads : Path.Leads path before) :
    fs.follow linkLimit (startOf fs.workingPlace path) (before.map String.ofList) =
      .ok (place, left) := by
  obtain ⟨-, -, hcuts | hcuts⟩ := hleads
  · rw [← hcuts]
    exact h
  · rw [Reaches, pieces, ← Path.cuts, hcuts, List.map_append] at h
    obtain ⟨⟨place', left'⟩, hfollow, hlast⟩ := exists_follow_of_append h
    obtain ⟨_, hat⟩ := exists_entries_of_follow hlast
    rw [List.map_singleton, follow_silent hat (.inl rfl), follow] at hlast
    cases hlast
    exact hfollow

theorem startOf_of_leads {before more : List (List Char)} (hleads : Path.Leads path before)
    (hmore : more ≠ []) (hcuts : Path.cuts path' = before ++ more) :
    startOf place path' = startOf place path := by
  have hroot : .root ∉ more.filterMap Path.component? := by
    intro hmem
    obtain ⟨piece, -, hpiece⟩ := List.mem_filterMap.1 hmem
    cases Path.text?_of_component?_eq_some hpiece
  have habsolute : Path.isAbsolute path' = Path.isAbsolute path := by
    rw [Path.isAbsolute_eq_contains, Path.isAbsolute_eq_contains,
      hleads.components_eq hmore hcuts, Bool.eq_iff_iff, List.contains_iff_mem,
      List.contains_iff_mem, List.mem_append]
    exact or_iff_left hroot
  rw [startOf, startOf, habsolute]

/-- What stands below a path is looked up from where the path leads. -/
theorem Reaches.follow_below {before more : List (List Char)} (h : fs.Reaches path place left)
    (hleads : Path.Leads path before) (hmore : more ≠ [])
    (hcuts : Path.cuts path' = before ++ more) :
    fs.follow linkLimit (startOf fs.workingPlace path') (pieces path') =
      fs.follow left place (more.map String.ofList) := by
  rw [startOf_of_leads hleads hmore hcuts, pieces, ← Path.cuts, hcuts, List.map_append]
  exact follow_append (h.follow_before hleads) _

end

/-! ### Absolute paths -/

theorem isPlain_of_isName {name : String} (hname : Path.IsName name)
    (hlen : name.utf8ByteSize ≤ nameLimit) : IsPlain name :=
  ⟨not_or.2 ⟨hname.1, hname.2.1⟩, hname.2.2.1, Nat.not_lt.2 hlen⟩

/-- The names of the working directory are names that directories have. -/
def IsPlaced (fs : FileSystem) : Prop :=
  ∀ name ∈ fs.workingPlace, Path.IsName name ∧ name.utf8ByteSize ≤ nameLimit

instance (fs : FileSystem) : Decidable fs.IsPlaced :=
  inferInstanceAs (Decidable (∀ _ ∈ _, _))

section

variable {fs : FileSystem} {path : String} {place : Place} {left : Nat}
  {entries : List (String × FileTree)}

theorem isAbsolute_workingDirectory (fs : FileSystem) :
    Path.isAbsolute fs.workingDirectory = true := by
  rw [workingDirectory, FileTree.Place.path, Path.isAbsolute, String.toList_append]
  rfl

theorem workingDirectory_ne_empty (fs : FileSystem) : fs.workingDirectory ≠ "" := by
  intro hempty
  have habsolute := isAbsolute_workingDirectory fs
  rw [hempty] at habsolute
  cases habsolute

/-- The path of the working directory leads there. -/
theorem reaches_workingDirectory (hplaced : fs.IsPlaced)
    (hat : fs.tree.at? fs.workingPlace = some (.directory entries)) :
    fs.Reaches fs.workingDirectory fs.workingPlace linkLimit := by
  have hroot : ∃ top, fs.tree.at? [] = some (.directory top) := by
    rw [FileTree.at?_nil]
    cases hplace : fs.workingPlace with
    | nil =>
      rw [hplace, FileTree.at?_nil] at hat
      exact ⟨entries, hat⟩
    | cons name place =>
      rw [hplace] at hat
      cases htree : fs.tree with
      | directory top => exact ⟨top, rfl⟩
      | file _ | program _ | link _ => rw [htree] at hat; cases hat
  obtain ⟨top, hroot⟩ := hroot
  have hnames : fs.follow linkLimit [] fs.workingPlace = .ok (fs.workingPlace, linkLimit) := by
    refine follow_names (t := .directory entries) (fun name hname => ?_) hat nofun linkLimit
    exact isPlain_of_isName (hplaced name hname).1 (hplaced name hname).2
  rw [Reaches, startOf, if_pos (isAbsolute_workingDirectory fs)]
  refine follow_of_filter_eq hnames hat ?_
  have hpieces : pieces fs.workingDirectory =
      "" :: pieces ("/".intercalate fs.workingPlace) := by
    rw [pieces, workingDirectory, FileTree.Place.path, String.toList_append]
    exact congrArg (List.map String.ofList) (List.splitOn_append_cons_self [] _)
  rw [hpieces, List.filter_cons_of_neg (by decide)]
  by_cases hplace : fs.workingPlace = []
  · rw [hplace]
    decide
  · rw [pieces_intercalate hplace fun name hname => (hplaced name hname).1.2.2.2]

/-- **The absolute form of a path** leads where the path does. -/
theorem Reaches.absolute (h : fs.Reaches path place left) (hplaced : fs.IsPlaced) :
    fs.Reaches (fs.absolute path) place left := by
  rw [FileSystem.absolute]
  split
  · exact h
  · next hpath =>
    rw [Bool.not_eq_true] at hpath
    rw [Reaches, startOf, if_neg (by rw [hpath]; exact Bool.false_ne_true)] at h
    obtain ⟨first, rest, hpieces⟩ : ∃ first rest, pieces path = first :: rest :=
      List.exists_cons_of_ne_nil (pieces_ne_nil path)
    rw [hpieces] at h
    obtain ⟨entries, hat⟩ := exists_entries_of_follow h
    obtain ⟨before, hleads, hcuts⟩ := Path.leads_of_join (workingDirectory_ne_empty fs) hpath
    rw [Reaches, (reaches_workingDirectory hplaced hat).follow_below hleads
      (Path.cuts_ne_nil path) hcuts]
    exact (congrArg (fs.follow linkLimit fs.workingPlace) hpieces).trans h

end

/-! ### Files below a path -/

section

variable {fs fs' : FileSystem} {path rest : String} {base place : Place} {left : Nat}

theorem isAbsolute_of_pieces (hnames : ∀ name ∈ pieces rest, Path.IsName name) :
    Path.isAbsolute rest = false := by
  rw [Path.isAbsolute, beq_eq_false_iff_ne]
  intro hhead
  obtain ⟨s, hs⟩ := List.head?_eq_some_iff.1 hhead
  have hcuts : ('/' :: s).splitOn '/' = [] :: s.splitOn '/' := List.splitOn_append_cons_self [] s
  have hempty : "" ∈ pieces rest := by
    rw [pieces, hs, hcuts]
    exact List.mem_cons_self
  exact (hnames "" hempty).1 rfl

/-- **Names below a path** are looked up from where the path leads. -/
theorem Reaches.follow_join (h : fs.Reaches path base left) (hpath : path ≠ "")
    (hnames : ∀ name ∈ pieces rest, Path.IsName name) :
    fs.follow linkLimit (startOf fs.workingPlace (Path.join path rest))
      (pieces (Path.join path rest)) = fs.follow left base (pieces rest) := by
  obtain ⟨before, hleads, hcuts⟩ := Path.leads_of_join hpath (isAbsolute_of_pieces hnames)
  exact h.follow_below hleads (Path.cuts_ne_nil rest) hcuts

/-- **A file is written to the place that the names below a path spell,** where no link is among
what they name. -/
theorem Reaches.writePlace_eq (h : fs.Reaches path base left) (hpath : path ≠ "")
    (hnames : ∀ name ∈ pieces rest, Path.IsName name)
    (hlinks : ∀ place target, place <+: pieces rest →
      fs.tree.at? (base ++ place) ≠ some (.link target))
    (hwrite : fs.writePlace linkLimit fs.workingPlace (Path.join path rest) = .ok place) :
    place = base ++ pieces rest ∧ ∀ name ∈ pieces rest, name.utf8ByteSize ≤ nameLimit := by
  obtain ⟨before, hleads, hcuts⟩ := Path.leads_of_join hpath (isAbsolute_of_pieces hnames)
  have hentry : ∀ {e}, fs.lastEntry linkLimit fs.workingPlace (Path.join path rest) = .ok e →
      e.place ++ [e.name] = base ++ pieces rest ∧
        (∀ name ∈ pieces rest, name.utf8ByteSize ≤ nameLimit) ∧
        ∀ target, e.named? ≠ some (.link target) := by
    intro e he
    obtain ⟨front, entries, hlast, hfollow, hat, -, -, hlen, hnamed⟩ := lastEntry_eq_ok he
    obtain ⟨hpieces, -⟩ := pieces_eq_of_lastPiece? hlast
    obtain ⟨init, last, hrest⟩ : ∃ init last, pieces rest = init ++ [last] := by
      rcases List.eq_nil_or_concat (pieces rest) with hnil | ⟨init, last, hconcat⟩
      · exact absurd hnil (pieces_ne_nil rest)
      · exact ⟨init, last, hconcat.trans List.concat_eq_append⟩
    rw [pieces, ← Path.cuts, hcuts, List.map_append] at hpieces
    change before.map String.ofList ++ pieces rest = _ at hpieces
    rw [hrest, ← List.append_assoc] at hpieces
    obtain ⟨rfl, hname⟩ := List.append_inj' hpieces rfl
    obtain rfl := List.singleton_inj.1 hname
    rw [startOf_of_leads hleads (Path.cuts_ne_nil rest) hcuts,
      follow_append (h.follow_before hleads)] at hfollow
    rw [hrest] at hnames hlinks ⊢
    obtain ⟨hfound, hlens⟩ := eq_of_follow_names hfollow
      (fun name hname => hnames name (List.mem_append_left _ hname))
      fun place target hplace => hlinks place target (hplace.trans (List.prefix_append _ _))
    have hplace : e.place = base ++ init := congrArg Prod.fst hfound
    refine ⟨by rw [hplace, List.append_assoc], ?_, fun target hlink => ?_⟩
    · exact List.forall_mem_append.2 ⟨hlens, List.forall_mem_singleton.2 hlen⟩
    · rw [hnamed, ← FileTree.at?_concat hat, hplace, List.append_assoc] at hlink
      exact hlinks _ target List.prefix_rfl hlink
  rw [writePlace] at hwrite
  split at hwrite
  · cases hwrite
  · cases hwrite
  · cases hwrite
  · next he => exact absurd rfl ((hentry he).2.2 _)
  · next he =>
    cases hwrite
    exact ⟨(hentry he).1, (hentry he).2.1⟩

end

end FileSystem
end PackageListing
