/-
# The descriptors that paths select

A path stands for itself, or for what holds it if it is a marker (`StandsFor`). It selects itself if
it is a file, and if it is a directory, the files below it that can be descriptors (`IsSelected`),
in their order (`Selects`). A walk comes to all that is below a directory if it can list each
directory there, and takes the path of the first one for no other thing (`IsWalked`). Then the files
that a path selects are those that it is expanded to (`filesOf_eq_ok_iff`), and it has none only if
it leads nowhere (`filesOf_eq_error_iff`). So what is loaded are the descriptors in the files that
the paths select, as often as they select them, and loading fails by the first path that leads
nowhere or file that holds no descriptor (`load_selected`). Other walks fail, at a directory whose
path is too long (`exists_loadPath_error_of_long`), or come to nothing, below a directory by the
path `-` (`loadPath_of_dash`).
-/

import Mathlib.Data.List.Forall2
import PackageListing.Proofs.Files.Order
import PackageListing.Proofs.Loading

namespace PackageListing

/-- A row of results has the result of each step at its place. -/
theorem Result.mapM_eq_ok_iff_forall₂ {ε α β : Type} {f : α → Except ε β} {l : List α}
    {bs : List β} : l.mapM f = .ok bs ↔ List.Forall₂ (fun a b => f a = .ok b) l bs := by
  induction l generalizing bs with
  | nil =>
    rw [List.forall₂_nil_left_iff]
    exact ⟨fun h => (Except.ok.inj h).symm, fun h => congrArg Except.ok h.symm⟩
  | cons a l ih =>
    rw [List.mapM_cons, List.forall₂_cons_left_iff, Result.bind_eq_ok]
    constructor
    · rintro ⟨b, hb, h⟩
      obtain ⟨rest, hrest, h⟩ := Result.bind_eq_ok.1 h
      cases h
      exact ⟨b, rest, hb, ih.1 hrest, rfl⟩
    · rintro ⟨b, rest, hb, hrest, rfl⟩
      exact ⟨b, hb, Result.bind_eq_ok.2 ⟨rest, ih.2 hrest, rfl⟩⟩

namespace Descriptors

open FileTree (Place Precedes pathBelow filePlaces)
open Result (bind_eq_ok mapError_eq_ok)

/-- What a path stands for: a marker stands for what holds it. -/
inductive StandsFor (path : String) : String → Prop
  | marker {target : String} : Path.fileName? path = some marker →
      Path.parent? path = some target → StandsFor path target
  | itself : Path.fileName? path ≠ some marker → StandsFor path path

/-- A place below a directory that is selected: a regular file whose name has the ending, outside of
the tool's cache. -/
structure IsSelected (t : FileTree) (place : Place) : Prop where
  outside : cacheName ∉ place
  regular : ∃ s, t.at? place = some s ∧ s.isRegular = true
  ending : ∃ front stem, stem ≠ "" ∧ place = front ++ [stem ++ ".json"]

/-- The files that a path selects. -/
inductive Selects (fs : FileSystem) (path : String) : List String → Prop
  | file {target : String} {t : FileTree} : StandsFor path target → fs.get target = .ok t →
      t.isDirectory = false → Selects fs path [target]
  | directory {target : String} {t : FileTree} {places : List Place} : StandsFor path target →
      fs.get target = .ok t → t.isDirectory = true →
      (∀ place, place ∈ places ↔ IsSelected t place) → places.Pairwise Precedes →
      Selects fs path (places.map (pathBelow target))

/-- **What is taken for granted of a walk:** it is not the standard input that the path of the
directory names, and no directory below it, outside of the tool's cache, has too long a path to be
listed. -/
def IsWalked (fs : FileSystem) (path : String) : Prop :=
  ∀ target t, StandsFor path target → fs.get target = .ok t → t.isDirectory = true →
    Path.components target ≠ [.member "-"] ∧
      ∀ place entries, cacheName ∉ place → t.at? place = some (.directory entries) →
        (pathBelow target place).utf8ByteSize ≤ FileSystem.pathLimit

/-- A file holds a descriptor. -/
def HoldsDescriptor (fs : FileSystem) (file : String) (p : Package) : Prop :=
  ∃ bytes, fs.read file = .ok bytes ∧ (Json.ofBytes? bytes).bind Package.decode? = some p

/-- How a file fails to give a descriptor. -/
inductive FileFails (fs : FileSystem) (file : String) : Failure → Prop
  | unreadable {e : IoError} : fs.read file = .error e → FileFails fs file ⟨[.read file], .io e⟩
  | malformed {bytes : List UInt8} : fs.read file = .ok bytes →
      (Json.ofBytes? bytes).bind Package.decode? = none →
      FileFails fs file (.of (.malformedDescriptor file))

/-- How a path fails: it leads nowhere, or one of the files that it selects fails and none before
it. -/
inductive PathFails (fs : FileSystem) (path : String) : Failure → Prop
  | missing {target : String} {e : IoError} : StandsFor path target → fs.get target = .error e →
      PathFails fs path ⟨[.inspect target], .io e⟩
  | file {before after : List String} {file : String} {f : Failure} :
      Selects fs path (before ++ file :: after) →
      (∀ earlier ∈ before, ∃ p, HoldsDescriptor fs earlier p) → FileFails fs file f →
      PathFails fs path f

section

variable {fs : FileSystem} {path target file : String} {paths files : List String} {t : FileTree}
  {place : Place} {p : Package} {f : Failure}

/-! ### What a path stands for -/

theorem standsFor_iff : StandsFor path target ↔ target = (markedDirectory? path).getD path := by
  rw [markedDirectory?]
  constructor
  · intro h
    cases h with
    | marker hname hparent => rw [if_pos hname, hparent, Option.getD_some]
    | itself hname => rw [if_neg hname, Option.getD_none]
  · rintro rfl
    by_cases hname : Path.fileName? path = some marker
    · obtain ⟨base, hparent⟩ := Path.exists_parent?_of_fileName? hname
      rw [if_pos hname, hparent, Option.getD_some]
      exact .marker hname hparent
    · rw [if_neg hname, Option.getD_none]
      exact .itself hname

/-! ### What is selected below a directory -/

theorem isDescriptor_pathBelow_iff (hpath : path ≠ "") (hne : place ≠ [])
    (hnames : ∀ name ∈ place, Path.IsName name) : isDescriptor (pathBelow path place) = true ↔
      ∃ front stem, stem ≠ "" ∧ place = front ++ [stem ++ ".json"] := by
  rcases List.eq_nil_or_concat place with hnil | ⟨front, name, hconcat⟩
  · exact absurd hnil hne
  · rw [List.concat_eq_append] at hconcat
    subst hconcat
    have hname : Path.IsName name :=
      hnames name (List.mem_append_right _ (List.mem_singleton_self name))
    rw [isDescriptor_iff (FileTree.fileName?_pathBelow hpath hname front)]
    constructor
    · rintro ⟨stem, hstem, rfl⟩
      exact ⟨front, stem, hstem, rfl⟩
    · rintro ⟨front', stem, hstem, heq⟩
      obtain ⟨-, heq⟩ := List.append_inj' heq rfl
      exact ⟨stem, hstem, List.head_eq_of_cons_eq heq⟩

/-- The places that a walk below a directory takes for descriptors. -/
def selectedPlaces (path : String) (t : FileTree) : List Place :=
  (filePlaces cacheName t).filter fun place => isDescriptor (pathBelow path place)

theorem mem_selectedPlaces_iff (hproper : t.IsProper) (hdirectory : t.isDirectory = true)
    (hpath : path ≠ "") : place ∈ selectedPlaces path t ↔ IsSelected t place := by
  rw [selectedPlaces, List.mem_filter, FileTree.mem_filePlaces_iff hproper.distinct]
  have hbelow : ∀ {s}, t.at? place = some s → s.isRegular = true →
      (isDescriptor (pathBelow path place) = true ↔
        ∃ front stem, stem ≠ "" ∧ place = front ++ [stem ++ ".json"]) := by
    intro s hs hregular
    refine isDescriptor_pathBelow_iff hpath ?_
      fun name hname => (hproper.isEntryName hs name hname).1
    rintro rfl
    rw [FileTree.at?_nil] at hs
    cases hs
    cases t with
    | directory _ => cases hregular
    | file _ | program _ | link _ => cases hdirectory
  constructor
  · rintro ⟨⟨houtside, s, hs, hregular⟩, hdescriptor⟩
    exact ⟨houtside, ⟨s, hs, hregular⟩, (hbelow hs hregular).1 hdescriptor⟩
  · rintro ⟨houtside, ⟨s, hs, hregular⟩, hending⟩
    exact ⟨⟨houtside, s, hs, hregular⟩, (hbelow hs hregular).2 hending⟩

theorem filesBelow_eq (hdash : Path.components path ≠ [.member "-"]) :
    filesBelow t path = (selectedPlaces path t).map (pathBelow path) := by
  rw [filesBelow, if_neg hdash, FileTree.walk_eq, List.filter_map]
  rfl

theorem pairwise_selectedPlaces (hproper : t.IsProper) :
    (selectedPlaces path t).Pairwise Precedes :=
  (FileTree.pairwise_precedes_filePlaces hproper).filter _

/-! ### What a path selects -/

theorem isProper_of_get (hproper : fs.tree.IsProper) (hget : fs.get target = .ok t) :
    t.IsProper ∧ target ≠ "" := by
  obtain ⟨hcheck, place, left, -, hat⟩ := FileSystem.exists_reaches_of_get hget
  exact ⟨hproper.of_at? hat, (FileSystem.checkPath_eq_ok_iff.1 hcheck).2.1⟩

/-- **The directories on the way of a walk** are listed by paths that are short enough. -/
theorem IsWalked.isListed (h : IsWalked fs path) (hproper : fs.tree.IsProper)
    (hstands : StandsFor path target) (hget : fs.get target = .ok t)
    (hdirectory : t.isDirectory = true) : IsListed fs t target := by
  intro v hv hv'
  rw [FileTree.visits_eq, List.mem_map] at hv
  obtain ⟨⟨place, s⟩, hmem, rfl⟩ := hv
  have hdistinct : FileTree.Distinct cacheName t := (isProper_of_get hproper hget).1.distinct
  obtain ⟨houtside, hat⟩ := (FileTree.mem_walkPlaces_iff hdistinct).1 hmem
  by_cases hne : place = []
  · subst hne
    exact ⟨t, hget⟩
  · cases s with
    | directory entries =>
      exact ⟨_, FileSystem.get_pathBelow hproper hget hat hne nofun
        ((h target t hstands hget hdirectory).2 place entries houtside hat)⟩
    | file _ | program _ | link _ => cases hv'

/-- **A path is expanded to the files that it selects.** -/
theorem filesOf_eq_ok_iff (hproper : fs.tree.IsProper) (hwalk : IsWalked fs path) :
    filesOf fs path = .ok files ↔ Selects fs path files := by
  have hexpanded : ∀ {target t}, StandsFor path target → fs.get target = .ok t →
      filesOf fs path = .ok (if t.isDirectory then filesBelow t target else [target]) :=
    fun hstands hget => filesOf_of_isListed (standsFor_iff.1 hstands).symm hget
      (hwalk.isListed hproper hstands hget)
  constructor
  · intro h
    have hstands : StandsFor path _ := standsFor_iff.2 rfl
    obtain ⟨found, hfound, -⟩ := bind_eq_ok.1 h
    obtain ⟨t, ht, -⟩ := bind_eq_ok.1 hfound
    have hget := mapError_eq_ok.1 ht
    obtain ⟨hproper', hne⟩ := isProper_of_get hproper hget
    cases (hexpanded hstands hget).symm.trans h
    by_cases hdirectory : t.isDirectory = true
    · rw [if_pos hdirectory, filesBelow_eq (hwalk _ t hstands hget hdirectory).1]
      exact .directory hstands hget hdirectory
        (fun place => mem_selectedPlaces_iff hproper' hdirectory hne)
        (pairwise_selectedPlaces hproper')
    · rw [if_neg hdirectory]
      exact .file hstands hget (Bool.not_eq_true _ ▸ hdirectory)
  · intro h
    cases h with
    | file hstands hget hfile =>
      rw [hexpanded hstands hget, hfile]
      rfl
    | @directory target t places hstands hget hdirectory hplaces hordered =>
      obtain ⟨hproper', hne⟩ := isProper_of_get hproper hget
      -- Which places there are and their order make up the whole list, so it is that of the walk.
      have hsame : places = selectedPlaces target t :=
        FileTree.eq_of_pairwise_precedes hordered (pairwise_selectedPlaces hproper') fun place =>
          (hplaces place).trans (mem_selectedPlaces_iff hproper' hdirectory hne).symm
      rw [hexpanded hstands hget, if_pos hdirectory, hsame,
        filesBelow_eq (hwalk target t hstands hget hdirectory).1]

/-- **A path that leads nowhere** is not expanded. -/
theorem filesOf_eq_error_iff (hproper : fs.tree.IsProper) (hwalk : IsWalked fs path) :
    filesOf fs path = .error f ↔ ∃ target e, StandsFor path target ∧ fs.get target = .error e ∧
      f = ⟨[.inspect target], .io e⟩ := by
  have hfails : ∀ {target}, StandsFor path target → (filesOf fs path = .error f ↔
      ∃ e, fs.get target = .error e ∧ f = ⟨[.inspect target], .io e⟩) := by
    intro target hstands
    cases hget : fs.get target with
    | error e =>
      rw [filesOf, foundOf, ← standsFor_iff.1 hstands, hget]
      constructor
      · intro h
        cases h
        exact ⟨e, rfl, rfl⟩
      · rintro ⟨_, h, rfl⟩
        cases h
        rfl
    | ok t =>
      rw [filesOf_of_isListed (standsFor_iff.1 hstands).symm hget
        (hwalk.isListed hproper hstands hget)]
      constructor
      · intro h
        cases h
      · rintro ⟨_, h, -⟩
        cases h
  constructor
  · intro h
    obtain ⟨e, hget, hf⟩ := (hfails (standsFor_iff.2 rfl)).1 h
    exact ⟨_, e, standsFor_iff.2 rfl, hget, hf⟩
  · rintro ⟨target, e, hstands, hget, hf⟩
    exact (hfails hstands).2 ⟨e, hget, hf⟩

/-- A path selects files just if it leads to something. -/
theorem exists_selects_iff (hproper : fs.tree.IsProper) (hwalk : IsWalked fs path) :
    (∃ files, Selects fs path files) ↔
      ∃ target t, StandsFor path target ∧ fs.get target = .ok t := by
  constructor
  · rintro ⟨files, hstands | hstands⟩
    all_goals exact ⟨_, _, ‹_›, ‹_›⟩
  · rintro ⟨target, t, hstands, hget⟩
    exact ⟨_, (filesOf_eq_ok_iff hproper hwalk).1 (filesOf_of_isListed
      (standsFor_iff.1 hstands).symm hget (hwalk.isListed hproper hstands hget))⟩

/-! ### What is loaded -/

theorem loadFile_eq_ok_iff : loadFile fs file = .ok p ↔ HoldsDescriptor fs file p := by
  rw [loadFile, bind_eq_ok]
  refine exists_congr fun bytes => and_congr mapError_eq_ok ?_
  cases (Json.ofBytes? bytes).bind Package.decode? with
  | none => exact ⟨fun h => (by cases h), fun h => (by cases h)⟩
  | some q => exact ⟨fun h => congrArg some (Except.ok.inj h), fun h => congrArg Except.ok
      (Option.some.inj h)⟩

theorem loadFile_of_malformed {bytes : List UInt8} (hread : fs.read file = .ok bytes)
    (hdecode : (Json.ofBytes? bytes).bind Package.decode? = none) :
    loadFile fs file = .error (.of (.malformedDescriptor file)) := by
  simp only [loadFile, hread, Failure.duringIo, Except.mapError, bind, Except.bind, hdecode]
  rfl

theorem loadFile_eq_error_iff : loadFile fs file = .error f ↔ FileFails fs file f := by
  constructor
  · intro h
    cases hread : fs.read file with
    | error e =>
      rw [loadFile, hread] at h
      cases h
      exact .unreadable hread
    | ok bytes =>
      cases hdecode : (Json.ofBytes? bytes).bind Package.decode? with
      | none =>
        cases h.symm.trans (loadFile_of_malformed hread hdecode)
        exact .malformed hread hdecode
      | some p => cases h.symm.trans (loadFile_eq_ok_iff.2 ⟨bytes, hread, hdecode⟩)
  · intro h
    cases h with
    | unreadable hread =>
      rw [loadFile, hread]
      rfl
    | malformed hread hdecode => exact loadFile_of_malformed hread hdecode

theorem exists_fileFails_iff :
    (∃ f, FileFails fs file f) ↔ ¬∃ p, HoldsDescriptor fs file p := by
  simp only [← loadFile_eq_error_iff, ← loadFile_eq_ok_iff]
  exact Result.not_ok_iff.symm

/-- Where a walk comes to all there is, the files are expanded first and loaded then. -/
theorem loadPath_eq (hproper : fs.tree.IsProper) (hwalk : IsWalked fs path) :
    loadPath fs path = filesOf fs path >>= fun files => files.mapM (loadFile fs) := by
  have hstands : StandsFor path _ := standsFor_iff.2 rfl
  cases hget : fs.get ((markedDirectory? path).getD path) with
  | error e =>
    rw [loadPath, filesOf, foundOf, hget]
    rfl
  | ok t =>
    have hlisted := hwalk.isListed hproper hstands hget
    rw [filesOf_of_isListed rfl hget hlisted, loadPath, foundOf_of_isListed rfl hget hlisted]
    exact List.mapM_map

theorem exists_loadPath_iff (hproper : fs.tree.IsProper) (hwalk : IsWalked fs path) :
    (∃ packages, loadPath fs path = .ok packages) ↔
      ∃ files, Selects fs path files ∧ ∀ file ∈ files, ∃ p, HoldsDescriptor fs file p := by
  simp only [loadPath_eq_ok_iff, filesOf_eq_ok_iff hproper hwalk]
  rw [exists_comm]
  simp only [exists_and_left, Result.exists_mapM_eq_ok_iff, loadFile_eq_ok_iff]

theorem loadPath_eq_error_iff (hproper : fs.tree.IsProper) (hwalk : IsWalked fs path) :
    loadPath fs path = .error f ↔ PathFails fs path f := by
  rw [loadPath_eq hproper hwalk]
  constructor
  · intro h
    cases hfiles : filesOf fs path with
    | error e =>
      rw [hfiles] at h
      cases h
      obtain ⟨target, e, hstands, hget, rfl⟩ := (filesOf_eq_error_iff hproper hwalk).1 hfiles
      exact .missing hstands hget
    | ok files =>
      rw [hfiles] at h
      change files.mapM (loadFile fs) = .error f at h
      obtain ⟨before, file, after, rfl, hbefore, hfile⟩ := Result.mapM_eq_error_iff.1 h
      simp only [loadFile_eq_ok_iff] at hbefore
      exact .file ((filesOf_eq_ok_iff hproper hwalk).1 hfiles) hbefore
        (loadFile_eq_error_iff.1 hfile)
  · intro h
    cases h with
    | missing hstands hget =>
      rw [(filesOf_eq_error_iff hproper hwalk).2 ⟨_, _, hstands, hget, rfl⟩]
      rfl
    | @file before after file _ hselects hbefore hfile =>
      simp only [← loadFile_eq_ok_iff] at hbefore
      rw [(filesOf_eq_ok_iff hproper hwalk).2 hselects]
      exact Result.mapM_eq_error_iff.2
        ⟨before, file, after, rfl, hbefore, loadFile_eq_error_iff.2 hfile⟩

section Walked

variable (hproper : fs.tree.IsProper) (hwalk : ∀ path ∈ paths, IsWalked fs path)
include hproper hwalk

/-- What is loaded are the descriptors in the files that the paths select. -/
theorem load_eq_ok_iff_selects {packages : List Package} :
    load fs paths = .ok packages ↔ ∃ selected, List.Forall₂ (Selects fs) paths selected ∧
      List.Forall₂ (HoldsDescriptor fs) selected.flatten packages := by
  have hselects : ∀ {selected}, List.Forall₂ (fun path files => filesOf fs path = .ok files) paths
      selected ↔ List.Forall₂ (Selects fs) paths selected := by
    intro selected
    constructor
    · intro h
      exact ((List.forall₂_and_left _ _).2 ⟨hwalk, h⟩).imp fun path files hfiles =>
        (filesOf_eq_ok_iff hproper hfiles.1).1 hfiles.2
    · intro h
      exact ((List.forall₂_and_left _ _).2 ⟨hwalk, h⟩).imp fun path files hfiles =>
        (filesOf_eq_ok_iff hproper hfiles.1).2 hfiles.2
  simp only [load_eq_ok_iff, Result.mapM_eq_ok_iff_forall₂, hselects, loadFile_eq_ok_iff]

/-- Loading fails as the first path does that fails. -/
theorem load_eq_error_iff : load fs paths = .error f ↔
    ∃ before path after, paths = before ++ path :: after ∧
      (∀ earlier ∈ before, ∃ files, Selects fs earlier files ∧
        ∀ file ∈ files, ∃ p, HoldsDescriptor fs file p) ∧
      PathFails fs path f := by
  have hrow : load fs paths = .error f ↔ paths.mapM (loadPath fs) = .error f := by
    rw [load, bind_pure_comp]
    exact Result.map_eq_error_iff
  rw [hrow, Result.mapM_eq_error_iff]
  refine exists_congr fun before => exists_congr fun path => exists_congr fun after =>
    and_congr_right ?_
  rintro rfl
  obtain ⟨hbefore, hafter⟩ := List.forall_mem_append.1 hwalk
  refine and_congr (forall₂_congr fun earlier hmem => ?_) ?_
  · exact exists_loadPath_iff hproper (hbefore earlier hmem)
  · exact loadPath_eq_error_iff hproper (hafter path List.mem_cons_self)

/-- Loading fails just if a path leads nowhere or a file that is selected holds no descriptor. -/
theorem exists_load_error_iff : (∃ f, load fs paths = .error f) ↔
    ∃ path ∈ paths, (∃ target e, StandsFor path target ∧ fs.get target = .error e) ∨
      ∃ files, Selects fs path files ∧ ∃ file ∈ files, ∃ f, FileFails fs file f := by
  constructor
  · rintro ⟨f, hf⟩
    obtain ⟨before, path, after, rfl, -, hpath⟩ := (load_eq_error_iff hproper hwalk).1 hf
    refine ⟨path, List.mem_append_right _ List.mem_cons_self, ?_⟩
    cases hpath with
    | missing hstands hget => exact .inl ⟨_, _, hstands, hget⟩
    | file hselects _ hfile =>
      exact .inr ⟨_, hselects, _, List.mem_append_right _ List.mem_cons_self, f, hfile⟩
  · rintro ⟨path, hmem, hpath⟩
    have hwalked := hwalk path hmem
    refine Result.not_ok_iff.1 ?_
    rintro ⟨packages, hload⟩
    obtain ⟨loaded, hloaded, -⟩ := bind_eq_ok.1 hload
    have hfine := Result.exists_mapM_eq_ok_iff.1 ⟨loaded, hloaded⟩ path hmem
    obtain ⟨files, hselects, hholds⟩ := (exists_loadPath_iff hproper hwalked).1 hfine
    rw [← filesOf_eq_ok_iff hproper hwalked] at hselects
    rcases hpath with ⟨target, e, hstands, hget⟩ | ⟨files', hselects', file, hfile, hfails⟩
    · cases hselects.symm.trans
        ((filesOf_eq_error_iff hproper hwalked).2 ⟨target, e, hstands, hget, rfl⟩)
    · rw [← filesOf_eq_ok_iff hproper hwalked] at hselects'
      cases hselects.symm.trans hselects'
      exact exists_fileFails_iff.1 hfails (hholds file hfile)

/-- **What is loaded** are the descriptors in the files that the paths select, as often as they
select them and in this order. Loading fails just if a path leads nowhere or a file that is selected
holds no descriptor, and by the first such path or file. A path that leads somewhere selects files,
and each file below a directory is read by the path that it has there, unless this is too long. -/
theorem load_selected :
    (∀ packages, load fs paths = .ok packages ↔
      ∃ selected, List.Forall₂ (Selects fs) paths selected ∧
        List.Forall₂ (HoldsDescriptor fs) selected.flatten packages) ∧
    ((∃ f, load fs paths = .error f) ↔
      ∃ path ∈ paths, (∃ target e, StandsFor path target ∧ fs.get target = .error e) ∨
        ∃ files, Selects fs path files ∧ ∃ file ∈ files, ∃ f, FileFails fs file f) ∧
    (∀ f, load fs paths = .error f ↔
      ∃ before path after, paths = before ++ path :: after ∧
        (∀ earlier ∈ before, ∃ files, Selects fs earlier files ∧
          ∀ file ∈ files, ∃ p, HoldsDescriptor fs file p) ∧
        PathFails fs path f) ∧
    (∀ path ∈ paths, (∃ files, Selects fs path files) ↔
      ∃ target t, StandsFor path target ∧ fs.get target = .ok t) ∧
    ∀ path t place s, fs.get path = .ok t → t.isDirectory = true → t.at? place = some s →
      s.isRegular = true → (pathBelow path place).utf8ByteSize ≤ FileSystem.pathLimit →
      fs.get (pathBelow path place) = .ok s := by
  refine ⟨fun packages => load_eq_ok_iff_selects hproper hwalk,
    exists_load_error_iff hproper hwalk, fun f => load_eq_error_iff hproper hwalk,
    fun path hmem => exists_selects_iff hproper (hwalk path hmem), ?_⟩
  intro path t place s hget hdirectory hat hregular hlength
  refine FileSystem.get_pathBelow hproper hget hat ?_ ?_ hlength
  · rintro rfl
    rw [FileTree.at?_nil] at hat
    cases hat
    cases t with
    | directory _ => cases hregular
    | file _ | program _ | link _ => cases hdirectory
  · rintro target rfl
    cases hregular

end Walked

/-! ### Other walks -/

/-- A directory by the path `-` is not walked. -/
theorem loadPath_of_dash (hstands : StandsFor path target) (hget : fs.get target = .ok t)
    (hdirectory : t.isDirectory = true) (hdash : Path.components target = [.member "-"]) :
    loadPath fs path = .ok [] := by
  have hfound : foundOf fs path = .ok [] := by
    rw [foundOf, ← standsFor_iff.1 hstands]
    refine bind_eq_ok.2 ⟨t, mapError_eq_ok.2 hget, ?_⟩
    rw [if_pos hdirectory, foundBelow, if_pos hdash]
    rfl
  rw [loadPath, hfound]
  rfl

/-- **A directory whose path is too long** makes the walk fail that comes to it. -/
theorem exists_loadPath_error_of_long {entries : List (String × FileTree)}
    (hproper : fs.tree.IsProper) (hstands : StandsFor path target) (hget : fs.get target = .ok t)
    (hdirectory : t.isDirectory = true) (hdash : Path.components target ≠ [.member "-"])
    (houtside : cacheName ∉ place) (hat : t.at? place = some (.directory entries))
    (hlong : FileSystem.pathLimit < (pathBelow target place).utf8ByteSize) :
    ∃ f, loadPath fs path = .error f := by
  obtain ⟨e, he⟩ : ∃ e, fs.get (pathBelow target place) = .error e := by
    refine Result.not_ok_iff.1 ?_
    rintro ⟨s, hs⟩
    have hcheck := (FileSystem.exists_reaches_of_get hs).1
    exact absurd (FileSystem.checkPath_eq_ok_iff.1 hcheck).2.2 (Nat.not_le.2 hlong)
  have hvisited : (pathBelow target place, .directory entries) ∈ t.visits cacheName target := by
    rw [FileTree.visits_eq]
    have hdistinct : FileTree.Distinct cacheName t := (isProper_of_get hproper hget).1.distinct
    exact List.mem_map_of_mem ((FileTree.mem_walkPlaces_iff hdistinct).2 ⟨houtside, hat⟩)
  have hfound : foundOf fs path = .ok (foundBelow fs t target) := by
    rw [foundOf, ← standsFor_iff.1 hstands]
    refine bind_eq_ok.2 ⟨t, mapError_eq_ok.2 hget, ?_⟩
    rw [if_pos hdirectory]
    rfl
  have hmem : .error ⟨[.walk target], .unlisted (pathBelow target place) e⟩ ∈
      foundBelow fs t target := by
    rw [foundBelow, if_neg hdash, List.mem_filterMap]
    refine ⟨_, hvisited, ?_⟩
    simp only [found?, he]
  rw [loadPath, hfound]
  refine Result.not_ok_iff.1 fun hloaded => ?_
  obtain ⟨_, hok⟩ := Result.exists_mapM_eq_ok_iff.1 hloaded _ hmem
  cases hok

end

/-! ### A directory with a marker -/

section Sample

variable (p q : Package)

/-- A file that holds a descriptor. -/
def holding (p : Package) : FileTree :=
  .file (Text.encode (p.render.toList ++ ['\n']))

/-- Two descriptors, one of them further below, with a marker and a cache. -/
def selectedEntries : List (String × FileTree) :=
  [("b.json", holding q), (".stdlib_marker", .file []),
    (".gocache", .directory [("x.json", .file [])]), ("a", .directory [("c.json", holding p)])]

/-- The directory as `d`. -/
def selectedFiles : FileSystem :=
  ⟨.directory [("d", .directory (selectedEntries p q))], []⟩

theorem get_selectedFiles :
    (selectedFiles p q).get "d" = .ok (.directory (selectedEntries p q)) := by
  have hplain : FileSystem.IsPlain "d" := by decide
  have hreaches : (selectedFiles p q).Reaches "d" ["d"] FileSystem.linkLimit :=
    FileSystem.follow_names (t := .directory (selectedEntries p q))
      (List.forall_mem_singleton.2 hplain) rfl nofun FileSystem.linkLimit
  exact hreaches.get_eq_ok rfl rfl

theorem isProper_selectedFiles : (selectedFiles p q).tree.IsProper := by
  have hfile : ∀ contents, (FileTree.file contents).IsProper := fun contents => by
    refine FileTree.isProper_of_kind_ne ?_
    change FileTree.Kind.regular ≠ .directory
    decide
  have hone : ∀ {name : String} {t : FileTree}, FileTree.IsEntryName name → t.IsProper →
      (FileTree.directory [(name, t)]).IsProper := fun hname ht =>
    FileTree.isProper_directory (List.nodup_singleton _) (List.forall_mem_singleton.2 hname)
      (List.forall_mem_singleton.2 ht)
  have hnames : (selectedEntries p q).map Prod.fst =
      ["b.json", ".stdlib_marker", ".gocache", "a"] := rfl
  refine hone (by decide)
    (FileTree.isProper_directory (by rw [hnames]; decide) (by rw [hnames]; decide) ?_)
  simp only [selectedEntries, List.forall_mem_cons, List.not_mem_nil, false_implies, implies_true,
    and_true]
  exact ⟨hfile _, hfile _, hone (by decide) (hfile _), hone (by decide) (hfile _)⟩

/-- What a walk below the directory comes to. -/
theorem mem_walkPlaces_selectedEntries {place : Place} {s : FileTree} :
    (place, s) ∈ FileTree.walkPlaces cacheName (.directory (selectedEntries p q)) ↔
      (place, s) ∈ [([], .directory (selectedEntries p q)), (["b.json"], holding q),
        ([".stdlib_marker"], .file []), (["a"], .directory [("c.json", holding p)]),
        (["a", "c.json"], holding p)] := by
  simp [FileTree.walkPlaces, FileTree.walkPlacesIn, selectedEntries, cacheName, holding,
    or_and_right, and_or_left, exists_or, and_assoc, and_comm, eq_comm]

theorem isWalked_selectedFiles {path : String}
    (hpath : path = "d/.stdlib_marker" ∨ path = "d/b.json") :
    IsWalked (selectedFiles p q) path := by
  have hproper := isProper_selectedFiles p q
  have hget := get_selectedFiles p q
  intro target t hstands ht hdirectory
  rcases hpath with rfl | rfl
  · obtain rfl : target = "d" := (standsFor_iff.1 hstands).trans (by decide)
    cases hget.symm.trans ht
    refine ⟨by decide, fun place entries houtside hat => ?_⟩
    have hmem := (FileTree.mem_walkPlaces_iff (isProper_of_get hproper hget).1.distinct).2
      ⟨houtside, hat⟩
    rw [mem_walkPlaces_selectedEntries] at hmem
    simp only [List.mem_cons, Prod.mk.injEq, List.not_mem_nil, or_false, holding, reduceCtorEq,
      and_false, false_or] at hmem
    rcases hmem with ⟨rfl, -⟩ | ⟨rfl, -⟩
    · decide
    · decide
  · obtain rfl : target = "d/b.json" := (standsFor_iff.1 hstands).trans (by decide)
    have hat : (FileTree.directory (selectedEntries p q)).at? ["b.json"] = some (holding q) := rfl
    have hfile := FileSystem.get_pathBelow hproper hget hat (by decide) nofun (by decide)
    cases hfile.symm.trans ht
    cases hdirectory

theorem isSelected_selectedEntries {place : Place} :
    place ∈ [["a", "c.json"], ["b.json"]] ↔
      IsSelected (.directory (selectedEntries p q)) place := by
  have hproper := (isProper_of_get (isProper_selectedFiles p q) (get_selectedFiles p q)).1
  have hplaces : place ∈ filePlaces cacheName (.directory (selectedEntries p q)) ↔
      ["b.json"] = place ∨ [".stdlib_marker"] = place ∨ ["a", "c.json"] = place := by
    simp [filePlaces, mem_walkPlaces_selectedEntries, holding, FileTree.isRegular, or_and_right,
      and_assoc, exists_or]
  rw [← mem_selectedPlaces_iff hproper rfl (by decide : "d" ≠ ""), selectedPlaces, List.mem_filter,
    hplaces]
  simp only [List.mem_cons, List.not_mem_nil, or_false]
  constructor
  · rintro (rfl | rfl)
    · exact ⟨.inr (.inr rfl), by decide⟩
    · exact ⟨.inl rfl, by decide⟩
  · rintro ⟨rfl | rfl | rfl, hdescriptor⟩
    · exact .inr rfl
    · exact absurd hdescriptor (by decide)
    · exact .inl rfl

theorem pairwise_selectedEntries :
    [["a", "c.json"], ["b.json"]].Pairwise Precedes := by
  refine List.pairwise_pair.2 ⟨[], "a", "b.json", ["c.json"], [], rfl, rfl, by decide⟩

/-- What the two places hold is read by the paths that they have below the directory. -/
theorem holdsDescriptor_selectedFiles :
    List.Forall₂ (HoldsDescriptor (selectedFiles p q))
      ([["a", "c.json"], ["b.json"]].map (pathBelow "d")) [p, q] := by
  have hholds : ∀ {place : Place} {r : Package},
      (FileTree.directory (selectedEntries p q)).at? place = some (holding r) → place ≠ [] →
      (pathBelow "d" place).utf8ByteSize ≤ FileSystem.pathLimit →
      HoldsDescriptor (selectedFiles p q) (pathBelow "d" place) r := by
    intro place r hat hne hlength
    have hfile := FileSystem.get_pathBelow (isProper_selectedFiles p q) (get_selectedFiles p q) hat
      hne nofun hlength
    exact loadFile_eq_ok_iff.1 (loadFile_of_read (bind_eq_ok.2 ⟨_, hfile, rfl⟩))
  exact .cons (hholds rfl (by decide) (by decide)) (.cons (hholds rfl (by decide) (by decide)) .nil)

end Sample

/-- A marker and a file that its directory holds select the file twice. -/
theorem load_selected_twice :
    (selectedFiles samplePackage default).tree.IsProper ∧
      (∀ path ∈ ["d/.stdlib_marker", "d/b.json"],
        IsWalked (selectedFiles samplePackage default) path) ∧
      load (selectedFiles samplePackage default) ["d/.stdlib_marker", "d/b.json"] =
        .ok [samplePackage, default, default] := by
  have hproper := isProper_selectedFiles samplePackage default
  have hwalk : ∀ path ∈ ["d/.stdlib_marker", "d/b.json"],
      IsWalked (selectedFiles samplePackage default) path := by
    intro path hmem
    exact isWalked_selectedFiles _ _ (by simpa using hmem)
  obtain ⟨hload, -, -, -, hbelow⟩ := load_selected hproper hwalk
  have hget := get_selectedFiles samplePackage default
  have hmarker : Selects (selectedFiles samplePackage default) "d/.stdlib_marker"
      ([["a", "c.json"], ["b.json"]].map (pathBelow "d")) :=
    .directory (.marker (by decide) (by decide)) hget rfl
      (fun _ => isSelected_selectedEntries _ _) pairwise_selectedEntries
  have hfile : Selects (selectedFiles samplePackage default) "d/b.json" ["d/b.json"] :=
    .file (.itself (by decide))
      (hbelow "d" _ ["b.json"] (holding default) hget rfl rfl rfl (by decide)) rfl
  have hholds := holdsDescriptor_selectedFiles samplePackage default
  refine ⟨hproper, hwalk, (hload _).2 ⟨_, .cons hmarker (.cons hfile .nil), ?_⟩⟩
  cases hholds with
  | cons hfirst hrest =>
    cases hrest with
    | cons hsecond _ => exact .cons hfirst (.cons hsecond (.cons hsecond .nil))

end Descriptors
end PackageListing
