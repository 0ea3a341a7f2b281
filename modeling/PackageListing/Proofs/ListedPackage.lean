/-
# The imports of listed packages

A listing says which path is behind an imported one (`ListedPackage.Behind`): the one that the map
of the listing gives, or the path itself where the map does not speak of it. The descriptor should
say the same, in whatever order the entries of the map are visited (`ListedPackage.ReadsMap`).

Each visit takes a path out and puts another one in, so the last visit that has to do with a path
decides on it (`ListedPackage.get?_foldl_visit`). An entry is kept where no later visit takes its
path out again (`ListedPackage.Kept`), and of the entries that are kept the descriptor says what
it should (`ListedPackage.get?_importsBy_eq_some_iff`). So the order does not matter just if no
entry can be lost: no path of the sources is behind another one (`ListedPackage.readsMap_iff`).
-/

import PackageListing.ListedPackage
import PackageListing.Proofs.Names.Map

namespace PackageListing
namespace ListedPackage

variable {label path resolved : String} {l : ListedPackage} {visited : List (String × String)}

/-- The imports of the descriptor where the entries of the map are visited in this order. -/
def importsBy (label : String) (l : ListedPackage) (visited : List (String × String)) :
    Names.Map :=
  labelled label (resolve l.imports visited)

/-- The path behind an imported one, by the listing. -/
inductive Behind (l : ListedPackage) : String → String → Prop
  | mapped {path resolved : String} (hentry : (path, resolved) ∈ l.importMap.entries)
    (hc : path ≠ "C") : Behind l path resolved
  | plain {path : String} (himport : path ∈ l.imports)
    (hkey : path ∉ l.importMap.entries.map Prod.fst) (hvalue : path ∉ l.importMap.values)
    (hc : path ≠ "C") : Behind l path path

/-- The descriptor has the imports of the listing, each with the path behind it. -/
def ReadsMap (label : String) (l : ListedPackage) (visited : List (String × String)) : Prop :=
  ∀ path id, (l.importsBy label visited).get? path = some id ↔
    ∃ resolved, l.Behind path resolved ∧ id = label ++ resolved

/-- After an entry of the path, no entry is visited that has the path behind another one. -/
def Kept (visited : List (String × String)) (path : String) : Prop :=
  visited.Pairwise fun e f => e.1 = path → f.2 ≠ path

/-- No path of the sources is behind another one, unless it is `C`, which is no package. -/
def Unchained (l : ListedPackage) : Prop :=
  ∀ e ∈ l.importMap.entries, ∀ f ∈ l.importMap.entries, e.2 = f.1 → e = f ∨ f.1 = "C"

/-! ### Labels -/

theorem entries_labelled (label : String) (m : Names.Map) :
    (labelled label m).entries = m.entries.map fun e => (e.1, label ++ e.2) :=
  Names.Map.entries_foldl_insert (m := .empty) (List.pairwise_map.2 m.increasing)

theorem get?_labelled_eq_some_iff {m : Names.Map} {id : String} :
    (labelled label m).get? path = some id ↔
      ∃ resolved, m.get? path = some resolved ∧ id = label ++ resolved := by
  rw [← Names.Map.mem_entries_iff, entries_labelled, List.mem_map]
  simp only [← Names.Map.mem_entries_iff]
  constructor
  · rintro ⟨e, he, heq⟩
    cases heq
    exact ⟨e.2, he, rfl⟩
  · rintro ⟨resolved, he, rfl⟩
    exact ⟨_, he, rfl⟩

/-! ### Visiting the entries of the map -/

/-- The visit of an entry: the path behind it is taken out, the path of the sources put in. -/
def visit (m : Names.Map) (e : String × String) : Names.Map :=
  (m.erase e.2).insert e.1 e.2

/-- Whether an entry has to do with a path. -/
def concerns (path : String) (e : String × String) : Bool :=
  e.1 == path || e.2 == path

theorem concerns_eq_true_iff {e : String × String} :
    concerns path e = true ↔ e.1 = path ∨ e.2 = path := by
  rw [concerns, Bool.or_eq_true, beq_iff_eq, beq_iff_eq]

theorem concerns_eq_false_iff {e : String × String} :
    concerns path e = false ↔ e.1 ≠ path ∧ e.2 ≠ path := by
  rw [concerns, Bool.or_eq_false_iff, beq_eq_false_iff_ne, beq_eq_false_iff_ne]

theorem get?_visit (m : Names.Map) (e : String × String) (path : String) :
    (visit m e).get? path =
      if concerns path e then if e.1 = path then some e.2 else none else m.get? path := by
  rw [visit, Names.Map.get?_insert, Names.Map.get?_erase, concerns]
  by_cases hsource : e.1 = path
  · simp [hsource]
  · by_cases hbehind : e.2 = path
    · simp [hsource, hbehind, Ne.symm hsource]
    · simp [hsource, hbehind, Ne.symm hsource, Ne.symm hbehind]

/-- **The last visit that has to do with a path decides on it.** -/
theorem get?_foldl_visit (m : Names.Map) (visited : List (String × String)) (path : String) :
    (visited.foldl visit m).get? path =
      match visited.reverse.find? (concerns path) with
      | some e => if e.1 = path then some e.2 else none
      | none => m.get? path := by
  induction visited using List.reverseRecOn with
  | nil => rfl
  | append_singleton visited e ih =>
    rw [List.foldl_append, List.foldl_cons, List.foldl_nil, get?_visit, List.reverse_append,
      List.reverse_singleton, List.singleton_append, List.find?_cons]
    cases concerns path e with
    | true => rfl
    | false => exact ih

/-- What is behind a path, by the map that the visits leave. -/
theorem get?_resolve (imports : List String) (visited : List (String × String)) (path : String) :
    (resolve imports visited).get? path =
      if path = "C" then none
      else
        match visited.reverse.find? (concerns path) with
        | some e => if e.1 = path then some e.2 else none
        | none => if path ∈ imports then some path else none := by
  have hplain := Names.Map.get?_ofList_map id imports path
  simp only [id] at hplain
  rw [← hplain, ← get?_foldl_visit]
  show ((List.foldl visit _ visited).erase "C").get? path = _
  rw [Names.Map.get?_erase]

/-! ### Entries that are kept -/

/-- A path is in the sources once. -/
theorem nodup_fst_of_perm (hperm : visited.Perm l.importMap.entries) :
    (visited.map Prod.fst).Nodup :=
  (hperm.map Prod.fst).nodup_iff.2 l.importMap.nodup_keys

theorem Behind.ne (h : l.Behind path resolved) : path ≠ "C" := by
  cases h <;> assumption

theorem behind_iff_of_mem {source : String} (hentry : (path, source) ∈ l.importMap.entries)
    (hc : path ≠ "C") : l.Behind path resolved ↔ source = resolved := by
  constructor
  · intro h
    cases h with
    | mapped hentry' =>
      rw [Names.Map.mem_entries_iff] at hentry hentry'
      exact Option.some.inj (hentry.symm.trans hentry')
    | plain _ hkey => exact absurd (List.mem_map_of_mem hentry) hkey
  · rintro rfl
    exact .mapped hentry hc

/-- Behind a path that the map does not speak of is the path itself. -/
theorem behind_iff_of_spared (hspared : ∀ e ∈ l.importMap.entries, e.1 ≠ path ∧ e.2 ≠ path)
    (hc : path ≠ "C") : l.Behind path resolved ↔ path ∈ l.imports ∧ path = resolved := by
  constructor
  · intro h
    cases h with
    | mapped hentry => exact absurd rfl (hspared _ hentry).1
    | plain himport => exact ⟨himport, rfl⟩
  · rintro ⟨himport, rfl⟩
    refine .plain himport (fun hkey => ?_) (fun hvalue => ?_) hc
    · obtain ⟨e, he, heq⟩ := List.mem_map.1 hkey
      exact (hspared e he).1 heq
    · obtain ⟨e, he, heq⟩ := List.mem_map.1 hvalue
      exact (hspared e he).2 heq

theorem kept_of_spared (hspared : ∀ e ∈ visited, e.1 ≠ path ∧ e.2 ≠ path) : Kept visited path :=
  List.pairwise_of_forall_mem_list fun e he _ _ heq => absurd heq (hspared e he).1

/-- A path with an entry is kept where that is the last one that has to do with it. -/
theorem kept_of_last {before after : List (String × String)} {e : String × String}
    (hnodup : ((before ++ e :: after).map Prod.fst).Nodup)
    (hafter : ∀ f ∈ after, concerns e.1 f = false) : Kept (before ++ e :: after) e.1 := by
  rw [List.map_append, List.map_cons] at hnodup
  have hbefore : ∀ f ∈ before, f.1 ≠ e.1 := fun f hf =>
    (List.nodup_append.1 hnodup).2.2 _ (List.mem_map_of_mem hf) _ List.mem_cons_self
  have hspared := fun f hf => concerns_eq_false_iff.1 (hafter f hf)
  refine List.pairwise_append.2 ⟨?_, List.pairwise_cons.2 ⟨?_, ?_⟩, ?_⟩
  · exact List.pairwise_of_forall_mem_list fun f hf _ _ heq => absurd heq (hbefore f hf)
  · exact fun f hf _ => (hspared f hf).2
  · exact List.pairwise_of_forall_mem_list fun f hf _ _ heq => absurd heq (hspared f hf).1
  · exact fun f hf _ _ heq => absurd heq (hbefore f hf)

/-- A path with an entry is not kept where the last entry that has to do with it is another one,
behind which it is. -/
theorem not_kept_of_last {before after : List (String × String)} {e : String × String}
    (hentry : (path, resolved) ∈ before ++ e :: after) (hsource : e.1 ≠ path)
    (hbehind : e.2 = path) (hafter : ∀ f ∈ after, concerns path f = false) :
    ¬Kept (before ++ e :: after) path := by
  intro hkept
  rcases List.mem_append.1 hentry with hbefore | hrest
  · exact (List.pairwise_append.1 hkept).2.2 _ hbefore e List.mem_cons_self rfl hbehind
  · rcases List.mem_cons.1 hrest with rfl | hlate
    · exact hsource rfl
    · exact (concerns_eq_false_iff.1 (hafter _ hlate)).1 rfl

/-- **Of the paths that are kept, the map has what the listing says.** -/
theorem get?_resolve_eq_some_iff (hperm : visited.Perm l.importMap.entries) :
    (resolve l.imports visited).get? path = some resolved ↔
      l.Behind path resolved ∧ Kept visited path := by
  rw [get?_resolve]
  by_cases hc : path = "C"
  · rw [if_pos hc]
    exact ⟨fun h => (nomatch h), fun h => absurd hc h.1.ne⟩
  rw [if_neg hc]
  cases hlast : visited.reverse.find? (concerns path) with
  | none =>
    have hspared : ∀ e ∈ visited, e.1 ≠ path ∧ e.2 ≠ path := fun e he =>
      concerns_eq_false_iff.1 <| Bool.eq_false_iff.2 <|
        List.find?_eq_none.1 hlast e (List.mem_reverse.2 he)
    rw [behind_iff_of_spared (fun e he => hspared e (hperm.mem_iff.2 he)) hc]
    simp [kept_of_spared hspared]
  | some e =>
    obtain ⟨hconcerns, before, after, rfl, hafter⟩ := Names.find?_reverse_eq_some_iff.1 hlast
    have he : e ∈ l.importMap.entries :=
      hperm.mem_iff.1 (List.mem_append_right _ List.mem_cons_self)
    by_cases hsource : e.1 = path
    · obtain rfl := hsource
      rw [behind_iff_of_mem he hc]
      simp [kept_of_last (nodup_fst_of_perm hperm) hafter]
    · have hbehind := (concerns_eq_true_iff.1 hconcerns).resolve_left hsource
      simp only [if_neg hsource]
      refine iff_of_false (fun h => nomatch h) ?_
      rintro ⟨hpath, hkept⟩
      cases hpath with
      | mapped hentry =>
        exact not_kept_of_last (hperm.mem_iff.2 hentry) hsource hbehind hafter hkept
      | plain _ _ hvalue => exact hvalue (hbehind ▸ List.mem_map_of_mem he)

theorem get?_importsBy_eq_some_iff (hperm : visited.Perm l.importMap.entries) {id : String} :
    (l.importsBy label visited).get? path = some id ↔
      ∃ resolved, l.Behind path resolved ∧ Kept visited path ∧ id = label ++ resolved := by
  rw [importsBy, get?_labelled_eq_some_iff]
  simp only [get?_resolve_eq_some_iff hperm, and_assoc]

/-! ### The order of the visits -/

theorem readsMap_iff_kept (hperm : visited.Perm l.importMap.entries) :
    l.ReadsMap label visited ↔ ∀ e ∈ l.importMap.entries, e.1 ≠ "C" → Kept visited e.1 := by
  constructor
  · intro h e he hc
    have hread := (h e.1 (label ++ e.2)).2 ⟨e.2, .mapped he hc, rfl⟩
    obtain ⟨_, _, hkept, _⟩ := (get?_importsBy_eq_some_iff hperm).1 hread
    exact hkept
  · intro h path id
    rw [get?_importsBy_eq_some_iff hperm]
    constructor
    · rintro ⟨resolved, hbehind, -, hid⟩
      exact ⟨resolved, hbehind, hid⟩
    · rintro ⟨resolved, hbehind, hid⟩
      refine ⟨resolved, hbehind, ?_, hid⟩
      cases hbehind with
      | mapped hentry hc => exact h _ hentry hc
      | plain _ hkey =>
        refine List.pairwise_of_forall_mem_list fun e he _ _ heq => absurd ?_ hkey
        exact heq ▸ List.mem_map_of_mem (hperm.mem_iff.1 he)

theorem kept_of_unchained (h : l.Unchained) (hperm : visited.Perm l.importMap.entries) :
    ∀ e ∈ l.importMap.entries, e.1 ≠ "C" → Kept visited e.1 := by
  intro e he hc
  have hnodup : visited.Pairwise fun f g => f.1 ≠ g.1 :=
    List.pairwise_map.1 (nodup_fst_of_perm hperm)
  refine hnodup.imp_of_mem fun {f g} _ hg hne hf hbehind => ?_
  rcases h g (hperm.mem_iff.1 hg) e he hbehind with rfl | hsource
  · exact hne hf
  · exact hc hsource

/-- Where a path of the sources is behind another one, its entry is not kept if it is visited
first. -/
theorem unchained_of_readsMap
    (h : ∀ visited, visited.Perm l.importMap.entries → l.ReadsMap label visited) :
    l.Unchained := by
  intro e he f hf hbehind
  by_contra hnot
  obtain ⟨hne, hc⟩ := not_or.1 hnot
  have hperm : (f :: l.importMap.entries.erase f).Perm l.importMap.entries :=
    (List.perm_cons_erase hf).symm
  have hkept := (readsMap_iff_kept hperm).1 (h _ hperm) f hf hc
  have hlate : e ∈ l.importMap.entries.erase f := (List.mem_erase_of_ne hne).2 he
  exact (List.pairwise_cons.1 hkept).1 e hlate rfl hbehind

theorem importsBy_eq_of_readsMap {visited' : List (String × String)}
    (h : l.ReadsMap label visited) (h' : l.ReadsMap label visited') :
    l.importsBy label visited = l.importsBy label visited' :=
  Names.Map.ext_get? fun path => Option.ext fun id => (h path id).trans (h' path id).symm

/-- **The imports of a descriptor are those of the listing,** each with the path behind it, in
whatever order the entries of the map are visited, just if no path of the sources is behind another
one; and then the order does not matter. In a given order it is so just if the entry of every path
but `C` is kept. -/
theorem readsMap_iff (label : String) (l : ListedPackage) :
    ((∀ visited, visited.Perm l.importMap.entries →
        l.ReadsMap label visited ∧ l.importsBy label visited = (l.toPackage label).imports) ↔
      l.Unchained) ∧
    ∀ visited, visited.Perm l.importMap.entries →
      (l.ReadsMap label visited ↔
        ∀ e ∈ l.importMap.entries, e.1 ≠ "C" → Kept visited e.1) := by
  refine ⟨⟨fun h => unchained_of_readsMap fun visited hperm => (h visited hperm).1, ?_⟩,
    fun visited => readsMap_iff_kept⟩
  intro h visited hperm
  have hread : ∀ {visited}, visited.Perm l.importMap.entries → l.ReadsMap label visited :=
    fun hperm => (readsMap_iff_kept hperm).2 (kept_of_unchained h hperm)
  exact ⟨hread hperm, importsBy_eq_of_readsMap (hread hperm) (hread (.refl _))⟩

/-- A package with two paths that are not found under their own names. -/
def vendored : ListedPackage :=
  { (default : ListedPackage) with
    imports := ["C", "fmt", "vendor/x", "vendor/y"]
    importMap := .ofList [("x", "vendor/x"), ("y", "vendor/y")] }

theorem readsMap_vendored :
    [("y", "vendor/y"), ("x", "vendor/x")].Perm vendored.importMap.entries ∧
      vendored.ReadsMap "std/" [("y", "vendor/y"), ("x", "vendor/x")] ∧
      (vendored.toPackage "std/").imports.entries =
        [("fmt", "std/fmt"), ("x", "std/vendor/x"), ("y", "std/vendor/y")] := by
  have hperm : [("y", "vendor/y"), ("x", "vendor/x")].Perm vendored.importMap.entries := by
    decide +kernel
  have hunchained : vendored.Unchained := by
    rw [Unchained]
    decide +kernel
  exact ⟨hperm, ((readsMap_iff "std/" vendored).1.2 hunchained _ hperm).1, by decide +kernel⟩

/-- A package with a path of the sources that is behind another one. -/
def chained : ListedPackage :=
  { (default : ListedPackage) with
    imports := ["a", "c"], importMap := .ofList [("a", "c"), ("b", "a")] }

/-- Of the two paths the first one is lost when it is visited first, as it is in the order of the
paths; so the order matters. -/
theorem not_readsMap_chained :
    ¬chained.ReadsMap "" chained.importMap.entries ∧
      (chained.toPackage "").imports.entries = [("b", "a")] ∧
      (chained.importsBy "" [("b", "a"), ("a", "c")]).entries = [("a", "c"), ("b", "a")] := by
  have hentries : chained.importMap.entries = [("a", "c"), ("b", "a")] := by decide +kernel
  refine ⟨fun h => ?_, by decide +kernel, by decide +kernel⟩
  have hread := (h "a" "c").2 ⟨"c", .mapped (by simp [hentries]) (by decide), by decide⟩
  revert hread
  decide +kernel

end ListedPackage
end PackageListing
