/-
# The components of paths

A path is cut at its slashes (`Path.cuts`), and its components are those of the cuts, after the root
or the current directory where it begins with one of them (`components_eq`). Below a path there
stand the cuts that it leads with (`Leads`), which are all its cuts, up to an empty one after a
slash at the end. What is joined to the path follows on them (`leads_of_join`), and so does what the
path holds (`leads_of_parent?`): both have the components of the path and then further ones
(`Leads.components_eq`, `components_join`, `exists_components_of_parent?`). So a path that ends in a
member is held by one that has the components before it (`exists_parent?`). The name of the member
may have an ending (`extension?_eq_some_iff`).
-/

import PackageListing.Path

namespace PackageListing
namespace Path

/-- What stands between the slashes of a path. -/
def cuts (path : String) : List (List Char) :=
  path.toList.splitOn '/'

/-- The component before those of the cuts. -/
def startComponents (cuts : List (List Char)) : List Component :=
  if cuts.head? = some ['.'] then [.current]
  else if cuts.head? = some [] ∧ 1 < cuts.length then [.root]
  else []

/-- A name that a directory may have for a member. -/
def IsName (name : String) : Prop :=
  name ≠ "" ∧ name ≠ "." ∧ name ≠ ".." ∧ '/' ∉ name.toList

instance (name : String) : Decidable (IsName name) :=
  inferInstanceAs (Decidable (_ ∧ _))

/-- The cuts that stand before what is below a path. -/
def Leads (path : String) (before : List (List Char)) : Prop :=
  path ≠ "" ∧ before ≠ [] ∧ (cuts path = before ∨ cuts path = before ++ [[]])

/-! ### Cuts -/

theorem cuts_ne_nil (path : String) : cuts path ≠ [] :=
  List.splitOn_ne_nil '/' path.toList

theorem intercalate_cuts (path : String) : ['/'].intercalate (cuts path) = path.toList :=
  List.intercalate_splitOn '/'

/-- Texts with slashes between them are the cuts of the whole. -/
theorem cuts_intercalate {texts : List String} (hne : texts ≠ [])
    (htexts : ∀ text ∈ texts, '/' ∉ text.toList) :
    cuts ("/".intercalate texts) = texts.map String.toList := by
  rw [cuts, String.toList_intercalate]
  refine List.splitOn_intercalate '/' ?_ (mt List.map_eq_nil_iff.1 hne)
  simpa using htexts

/-- The ways to begin: at the root, in the current directory, and anyhow. -/
theorem start_cases (s : List Char) :
    (∃ rest, s = '/' :: rest ∧ start s = ['/']) ∨
      (∃ rest more, s = '.' :: rest ∧ start s = ['.'] ∧ rest.splitOn '/' = [] :: more ∧
        s.splitOn '/' = ['.'] :: more) ∨
      (start s = [] ∧ startComponents (s.splitOn '/') = []) := by
  unfold start
  split
  · next rest => exact .inl ⟨rest, rfl, rfl⟩
  · exact .inr (.inl ⟨[], [], rfl, rfl, rfl, rfl⟩)
  · next rest =>
    have hrest : ('/' :: rest).splitOn '/' = [] :: rest.splitOn '/' :=
      List.splitOn_append_cons_self [] rest
    exact .inr (.inl ⟨'/' :: rest, rest.splitOn '/', rfl, rfl, hrest,
      List.splitOn_append_cons_self ['.'] rest⟩)
  · next hroot hdot hcurrent =>
    refine .inr (.inr ⟨rfl, ?_⟩)
    cases s with
    | nil => rfl
    | cons c s =>
      have hc : (c == '/') = false := beq_eq_false_iff_ne.2 fun heq => hroot s (by rw [heq])
      rw [List.splitOn_cons_eq_if_modifyHead, hc]
      obtain ⟨first, rest, hsplit⟩ := List.exists_cons_of_ne_nil (List.splitOn_ne_nil '/' s)
      rw [if_neg Bool.false_ne_true, hsplit, List.modifyHead_cons]
      -- With a full stop for its first cut the path would begin in the current directory.
      have hfirst : c :: first ≠ ['.'] := by
        intro heq
        obtain ⟨rfl, rfl⟩ := List.cons.inj heq
        have hs : ['/'].intercalate ([] :: rest) = s := hsplit ▸ List.intercalate_splitOn '/'
        cases rest with
        | nil =>
          rw [List.intercalate_singleton] at hs
          exact absurd (hs ▸ rfl) hdot
        | cons second rest =>
          rw [List.intercalate_cons_cons] at hs
          exact (hcurrent _ (by rw [← hs]; rfl)).elim
      simp [startComponents, hfirst]

/-- **The components of a path** are those of its cuts, after what it begins with. -/
theorem components_eq (path : String) :
    components path = startComponents (cuts path) ++ (cuts path).filterMap component? := by
  rw [components, cuts]
  rcases start_cases path.toList with ⟨rest, hs, hstart⟩ | ⟨rest, more, hs, hstart, hrest, hcuts⟩ |
    ⟨hstart, hcuts⟩
  · have hsplit : ('/' :: rest).splitOn '/' = [] :: rest.splitOn '/' :=
      List.splitOn_append_cons_self [] rest
    rw [hstart, hs, hsplit]
    obtain ⟨first, more, hmore⟩ := List.exists_cons_of_ne_nil (List.splitOn_ne_nil '/' rest)
    simp only [List.length_singleton, List.drop_succ_cons, List.drop_zero, hmore]
    simp [startComponents, component?]
  · rw [hstart, hcuts, hs]
    simp only [List.length_singleton, List.drop_succ_cons, List.drop_zero, hrest]
    rfl
  · rw [hstart, hcuts]
    rfl

theorem text?_of_component?_eq_some {piece : List Char} {c : Component}
    (h : component? piece = some c) : c.text? = some (String.ofList piece) := by
  rw [component?] at h
  split at h
  · cases h
  · split at h
    · next hparent =>
      cases h
      rw [hparent]
      rfl
    · cases h
      rfl

theorem root_not_mem_filterMap (pieces : List (List Char)) :
    .root ∉ pieces.filterMap component? := by
  intro h
  obtain ⟨piece, -, hpiece⟩ := List.mem_filterMap.1 h
  cases text?_of_component?_eq_some hpiece

/-- The texts of the components are the cuts that say something. -/
theorem filterMap_text?_components (path : String) :
    (components path).filterMap Component.text? =
      ((cuts path).filter fun piece => !isSilent piece).map String.ofList := by
  have hstart : (startComponents (cuts path)).filterMap Component.text? = [] := by
    rw [startComponents]
    split
    · rfl
    · split
      · rfl
      · rfl
  rw [components_eq, List.filterMap_append, hstart, List.nil_append, List.filterMap_filterMap]
  induction cuts path with
  | nil => rfl
  | cons piece pieces ih =>
    rw [List.filterMap_cons, List.filter_cons, isSilent]
    cases hpiece : component? piece with
    | none => exact ih
    | some c =>
      rw [Option.bind_some, text?_of_component?_eq_some hpiece, ih]
      rfl

/-- A path is absolute when the root is among its components. -/
theorem isAbsolute_eq_contains (path : String) :
    isAbsolute path = (components path).contains .root := by
  have hcomponents : (components path).contains .root =
      (startComponents (cuts path)).contains .root := by
    rw [components_eq, Bool.eq_iff_iff, List.contains_iff_mem, List.contains_iff_mem,
      List.mem_append]
    exact or_iff_left (root_not_mem_filterMap (cuts path))
  rw [hcomponents, isAbsolute, cuts]
  rcases start_cases path.toList with ⟨rest, hs, -⟩ | ⟨rest, more, hs, -, -, hcuts⟩ |
    ⟨hstart, hcuts⟩
  · have hsplit : ('/' :: rest).splitOn '/' = [] :: rest.splitOn '/' :=
      List.splitOn_append_cons_self [] rest
    obtain ⟨first, more, hmore⟩ := List.exists_cons_of_ne_nil (List.splitOn_ne_nil '/' rest)
    rw [hs, hsplit, hmore]
    rfl
  · rw [hcuts, hs]
    rfl
  · rw [hcuts]
    cases hs : path.toList with
    | nil => rfl
    | cons c s =>
      refine beq_eq_false_iff_ne.2 fun heq => ?_
      obtain rfl := Option.some.inj heq
      rw [hs] at hstart
      cases hstart

theorem eq_empty_of_components_eq_nil {path : String} (h : components path = []) : path = "" := by
  rw [components_eq] at h
  obtain ⟨hstart, hmembers⟩ := List.append_eq_nil_iff.1 h
  obtain ⟨first, rest, hcuts⟩ := List.exists_cons_of_ne_nil (cuts_ne_nil path)
  rw [hcuts] at hstart hmembers
  have hfirst : first = [] ∨ first = ['.'] := by
    have hnone := List.filterMap_eq_nil_iff.1 hmembers first List.mem_cons_self
    rw [component?] at hnone
    split at hnone
    · assumption
    · split at hnone
      · cases hnone
      · cases hnone
  rcases hfirst with rfl | rfl
  · cases rest with
    | nil =>
      have htext := intercalate_cuts path
      rw [hcuts, List.intercalate_singleton] at htext
      exact String.toList_inj.1 htext.symm
    | cons second rest => simp [startComponents] at hstart
  · cases hstart

theorem ne_empty_of_isAbsolute {path : String} (h : isAbsolute path) : path ≠ "" := by
  rintro rfl
  cases h

theorem cuts_of_isName {name : String} (h : IsName name) : cuts name = [name.toList] :=
  List.splitOn_eq_singleton h.2.2.2

theorem component?_of_isName {name : String} (h : IsName name) :
    component? name.toList = some (.member name) := by
  obtain ⟨hempty, hdot, hdots, -⟩ := h
  have hsilent : ¬(name.toList = [] ∨ name.toList = ['.']) := by
    rintro (h | h)
    · exact hempty (String.toList_inj.1 h)
    · exact hdot (String.toList_inj.1 h)
  have hparent : name.toList ≠ ['.', '.'] := fun h => hdots (String.toList_inj.1 h)
  rw [component?, if_neg hsilent, if_neg hparent, String.ofList_toList]

theorem isAbsolute_of_isName {name : String} (h : IsName name) : isAbsolute name = false := by
  rw [isAbsolute, beq_eq_false_iff_ne]
  intro hhead
  exact h.2.2.2 (List.mem_of_mem_head? hhead)

/-! ### What is below a path -/

theorem intercalate_append {before more : List (List Char)} (hbefore : before ≠ [])
    (hmore : more ≠ []) :
    ['/'].intercalate (before ++ more) =
      ['/'].intercalate before ++ '/' :: ['/'].intercalate more := by
  induction before with
  | nil => exact absurd rfl hbefore
  | cons first before ih =>
    cases before with
    | nil =>
      obtain ⟨second, more, rfl⟩ := List.exists_cons_of_ne_nil hmore
      rw [List.singleton_append, List.intercalate_cons_cons, List.intercalate_singleton,
        List.append_assoc, List.singleton_append]
    | cons second before =>
      rw [List.cons_append, List.cons_append, List.intercalate_cons_cons,
        List.intercalate_cons_cons, ← List.cons_append, ih (List.cons_ne_nil _ _),
        List.append_assoc _ (['/'].intercalate _)]

/-- A text without slashes at the end belongs to the last cut. -/
theorem splitOn_append_of_not_mem {s t last : List Char} {front : List (List Char)}
    (h : s.splitOn '/' = front ++ [last]) (ht : '/' ∉ t) :
    (s ++ t).splitOn '/' = front ++ [last ++ t] := by
  have hs : ['/'].intercalate (front ++ [last]) = s := h ▸ List.intercalate_splitOn '/'
  have htext : s ++ t = ['/'].intercalate (front ++ [last ++ t]) := by
    rw [← hs]
    by_cases hfront : front = []
    · rw [hfront, List.nil_append, List.nil_append, List.intercalate_singleton,
        List.intercalate_singleton]
    · rw [intercalate_append hfront (List.cons_ne_nil _ _),
        intercalate_append hfront (List.cons_ne_nil _ _), List.intercalate_singleton,
        List.intercalate_singleton, List.append_assoc, List.cons_append]
  rw [htext]
  refine List.splitOn_intercalate '/' (fun piece hpiece => ?_) (List.append_ne_nil_of_right_ne_nil _
    (List.cons_ne_nil _ _))
  rcases List.mem_append.1 hpiece with hpiece | hpiece
  · exact Text.not_mem_of_mem_splitOn (h ▸ List.mem_append_left _ hpiece)
  · obtain rfl := List.mem_singleton.1 hpiece
    have hlast : '/' ∉ last :=
      Text.not_mem_of_mem_splitOn (h ▸ List.mem_append_right _ (List.mem_singleton_self last))
    exact fun hmem => (List.mem_append.1 hmem).elim hlast ht

variable {base path : String}

theorem exists_concat_of_ne_empty {s : String} (h : s ≠ "") :
    ∃ front c, s.toList = front ++ [c] := by
  rcases List.eq_nil_or_concat s.toList with hnil | ⟨front, c, hconcat⟩
  · exact absurd (String.toList_inj.1 hnil) h
  · exact ⟨front, c, hconcat.trans List.concat_eq_append⟩

/-- The text of a path that is joined to another one. -/
theorem toList_join_concat {front : List Char} {c : Char} (hbase : base.toList = front ++ [c])
    (hpath : isAbsolute path = false) :
    (join base path).toList =
      if c = '/' then base.toList ++ path.toList else base.toList ++ '/' :: path.toList := by
  rw [join, hpath, hbase, List.getLast?_concat, if_neg Bool.false_ne_true, ← hbase]
  by_cases hc : c = '/'
  · subst hc
    rw [if_pos rfl]
    exact String.toList_append
  · rw [if_neg hc]
    split
    · next h => cases h
    · next h => exact absurd (Option.some.inj h) hc
    · rw [String.toList_append, String.toList_append, List.append_assoc]
      rfl

theorem toList_join_of_slash {front : List Char} (hbase : base.toList = front ++ ['/'])
    (hpath : isAbsolute path = false) :
    (join base path).toList = base.toList ++ path.toList := by
  rw [toList_join_concat hbase hpath, if_pos rfl]

namespace Leads

variable {before more : List (List Char)}

/-- **What is below a path** has its components and further ones. -/
theorem components_eq (h : Leads base before) (hmore : more ≠ [])
    (hcuts : cuts path = before ++ more) :
    components path = components base ++ more.filterMap component? := by
  obtain ⟨hbase, hbefore, hlead⟩ := h
  obtain ⟨first, rest, rfl⟩ := List.exists_cons_of_ne_nil hbefore
  obtain ⟨second, others, rfl⟩ := List.exists_cons_of_ne_nil hmore
  have hstart : startComponents (first :: (rest ++ second :: others)) =
      startComponents (cuts base) := by
    have hhead : (cuts base).head? = some first := by
      rcases hlead with hlead | hlead
      · rw [hlead, List.head?_cons]
      · rw [hlead, List.cons_append, List.head?_cons]
    have hlength : first = [] → 1 < (cuts base).length := by
      rintro rfl
      rcases hlead with hlead | hlead
      · cases rest with
        | nil =>
          have htext := intercalate_cuts base
          rw [hlead, List.intercalate_singleton] at htext
          exact absurd (String.toList_inj.1 htext.symm) hbase
        | cons => simp [hlead]
      · simp [hlead]
    simp only [startComponents, hhead, List.head?_cons, List.length_cons, List.length_append,
      Option.some_inj]
    by_cases hfirst : first = []
    · simp [hfirst, hlength hfirst]
    · simp [hfirst]
  have hsame : (cuts base).filterMap component? = (first :: rest).filterMap component? := by
    rcases hlead with hlead | hlead
    · rw [hlead]
    · rw [hlead, List.filterMap_append]
      exact List.append_nil _
  rw [Path.components_eq, Path.components_eq, hcuts, List.cons_append, hstart, ← List.cons_append,
    List.filterMap_append, hsame, List.append_assoc]

/-- The text of the path, with a slash, begins the text of what is below it. -/
theorem isPrefix_toList_join (h : Leads base before) (hmore : more ≠ [])
    (hcuts : cuts path = before ++ more) : (join base "").toList <+: path.toList := by
  obtain ⟨hbase, hbefore, hlead⟩ := h
  have hpath : path.toList = ['/'].intercalate before ++ '/' :: ['/'].intercalate more := by
    rw [← intercalate_cuts, hcuts, intercalate_append hbefore hmore]
  rw [hpath, List.append_cons]
  rcases hlead with hlead | hlead
  · have htext : base.toList = ['/'].intercalate before := by rw [← intercalate_cuts, hlead]
    obtain ⟨front, c, hconcat⟩ := exists_concat_of_ne_empty hbase
    rw [toList_join_concat hconcat rfl, ← htext]
    split
    · rw [String.toList_empty, List.append_nil, List.append_assoc]
      exact List.prefix_append _ _
    · exact List.prefix_append _ _
  · have htext : base.toList = ['/'].intercalate before ++ ['/'] := by
      rw [← intercalate_cuts, hlead, intercalate_append hbefore (List.cons_ne_nil _ _)]
      rfl
    rw [toList_join_of_slash htext rfl, htext]
    exact (List.append_nil _).symm ▸ List.prefix_append _ _

end Leads

/-- **What is joined to a path** stands below it. -/
theorem leads_of_join (hbase : base ≠ "") (hpath : isAbsolute path = false) :
    ∃ before, Leads base before ∧ cuts (join base path) = before ++ cuts path := by
  obtain ⟨front, c, hconcat⟩ := exists_concat_of_ne_empty hbase
  have hjoin := toList_join_concat hconcat hpath
  by_cases hc : c = '/'
  · subst hc
    rw [if_pos rfl, hconcat, ← List.append_cons] at hjoin
    refine ⟨front.splitOn '/', ⟨hbase, List.splitOn_ne_nil _ _, .inr ?_⟩, ?_⟩
    · rw [cuts, hconcat]
      exact List.splitOn_append_cons_self front []
    · rw [cuts, hjoin, List.splitOn_append_cons_self]
      rfl
  · rw [if_neg hc] at hjoin
    refine ⟨cuts base, ⟨hbase, cuts_ne_nil base, .inl rfl⟩, ?_⟩
    rw [cuts, hjoin, List.splitOn_append_cons_self]
    rfl

/-- **A name that is joined to a path** is one more component. -/
theorem components_join {base name : String} (hbase : base ≠ "") (hname : IsName name) :
    components (join base name) = components base ++ [.member name] := by
  obtain ⟨before, hleads, hcuts⟩ := leads_of_join hbase (isAbsolute_of_isName hname)
  rw [hleads.components_eq (cuts_ne_nil name) hcuts, cuts_of_isName hname, List.filterMap_cons,
    component?_of_isName hname, List.filterMap_nil]

/-! ### What holds a path -/

theorem filterMap_component?_of_isSilent {l : List (List Char)} (h : ∀ piece ∈ l, isSilent piece) :
    l.filterMap component? = [] :=
  List.filterMap_eq_nil_iff.2 fun piece hpiece => Option.isNone_iff_eq_none.1 (h piece hpiece)

/-- What is cut off for the directory that holds a path has one component. -/
theorem exists_eq_append_of_dropWhile {body before : List (List Char)} {last : List Char}
    (h : body.reverse.dropWhile isSilent = last :: before) :
    ∃ more c, body = (before.dropWhile isSilent).reverse ++ more ∧
      more.filterMap component? = [c] := by
  have hlast : isSilent last ≠ true := by
    have hhead := List.head?_dropWhile_not isSilent body.reverse
    rw [h] at hhead
    simpa using hhead
  obtain ⟨c, hc⟩ := Option.ne_none_iff_exists'.1 fun hnone =>
    hlast (Option.isNone_iff_eq_none.2 hnone)
  have hbody : body = before.reverse ++ last :: (body.reverse.takeWhile isSilent).reverse := by
    have hsplit := List.takeWhile_append_dropWhile (p := isSilent) (l := body.reverse)
    rw [h] at hsplit
    have hreverse := congrArg List.reverse hsplit
    rw [List.reverse_reverse, List.reverse_append, List.reverse_cons, List.append_assoc] at hreverse
    exact hreverse.symm
  have hbefore : before.reverse = (before.dropWhile isSilent).reverse ++
      (before.takeWhile isSilent).reverse := by
    rw [← List.reverse_append, List.takeWhile_append_dropWhile]
  refine ⟨(before.takeWhile isSilent).reverse ++ last :: (body.reverse.takeWhile isSilent).reverse,
    c, ?_, ?_⟩
  · rw [← List.append_assoc, ← hbefore]
    exact hbody
  · rw [List.filterMap_append, List.filterMap_cons, hc,
      filterMap_component?_of_isSilent, filterMap_component?_of_isSilent]
    · rfl
    all_goals
      intro piece hpiece
      exact List.all_eq_true.1 List.all_takeWhile piece (List.mem_reverse.1 hpiece)

/-- **What holds a path** stands above it. -/
theorem leads_of_parent? (h : parent? path = some base) (hbase : base ≠ "") :
    ∃ before more c, Leads base before ∧ cuts path = before ++ more ∧
      more.filterMap component? = [c] := by
  simp only [parent?] at h
  split at h
  · split at h
    · cases h
      exact absurd rfl hbase
    · cases h
  · next last before hdrop =>
    obtain ⟨more, c, hbody, hmore⟩ := exists_eq_append_of_dropWhile hdrop
    generalize (before.dropWhile isSilent).reverse = kept at h hbody
    have hkept : ∀ piece ∈ kept, '/' ∉ piece := fun piece hpiece =>
      Text.not_mem_of_mem_splitOn (hbody ▸ List.mem_append_left more hpiece)
    have htext := congrArg String.toList (Option.some.inj h)
    rw [String.toList_ofList] at htext
    rcases start_cases path.toList with ⟨rest, hs, hstart⟩ |
      ⟨rest, others, hs, hstart, hrest, hcuts⟩ | ⟨hstart, -⟩
    · rw [hstart] at htext hbody
      rw [hs] at hbody
      have hcuts : cuts path = [] :: (kept ++ more) := by
        rw [cuts, hs, ← hbody]
        exact List.splitOn_append_cons_self [] rest
      have hbaseCuts : cuts base = [] :: (['/'].intercalate kept).splitOn '/' := by
        rw [cuts, ← htext]
        exact List.splitOn_append_cons_self [] _
      refine ⟨[] :: kept, more, c, ⟨hbase, List.cons_ne_nil _ _, ?_⟩, hcuts, hmore⟩
      rw [hbaseCuts]
      cases kept with
      | nil => exact .inr rfl
      | cons first kept => exact .inl (by rw [List.splitOn_intercalate '/' hkept nofun])
    · rw [hstart] at htext hbody
      rw [hs] at hbody
      change rest.splitOn '/' = kept ++ more at hbody
      rw [hrest] at hbody
      cases kept with
      | nil =>
        obtain rfl : more = [] :: others := hbody.symm
        refine ⟨[['.']], others, c, ⟨hbase, List.cons_ne_nil _ _, .inl ?_⟩, hcuts, hmore⟩
        rw [cuts, ← htext]
        rfl
      | cons first kept =>
        obtain ⟨rfl, rfl⟩ := List.cons.inj hbody
        have htext' : base.toList = ['/'].intercalate (['.'] :: kept) := by
          rw [← htext]
          cases kept with
          | nil => rfl
          | cons second kept =>
            rw [List.intercalate_cons_cons, List.intercalate_cons_cons]
            rfl
        refine ⟨['.'] :: kept, more, c, ⟨hbase, List.cons_ne_nil _ _, .inl ?_⟩, hcuts, hmore⟩
        rw [cuts, htext', List.splitOn_intercalate '/' _ (List.cons_ne_nil _ _)]
        exact List.forall_mem_cons.2 ⟨by decide, (List.forall_mem_cons.1 hkept).2⟩
    · rw [hstart] at htext hbody
      have hne : kept ≠ [] := by
        rintro rfl
        exact hbase (String.toList_inj.1 htext.symm)
      refine ⟨kept, more, c, ⟨hbase, hne, .inl ?_⟩, hbody, hmore⟩
      rw [cuts, ← htext]
      exact List.splitOn_intercalate '/' hkept hne

/-- **What holds a path** has its components but the last one. -/
theorem exists_components_of_parent? (h : parent? path = some base) (hbase : base ≠ "") :
    ∃ c, components path = components base ++ [c] := by
  obtain ⟨before, more, c, hleads, hcuts, hmore⟩ := leads_of_parent? h hbase
  have hne : more ≠ [] := by
    rintro rfl
    cases hmore
  exact ⟨c, by rw [hleads.components_eq hne hcuts, hmore]⟩

/-- A path of silent pieces has nothing but its start for components. -/
theorem components_of_silent (h : ((path.toList.drop (start path.toList).length).splitOn
    '/').filterMap component? = []) : ∀ c ∈ components path, c = .root ∨ c = .current := by
  intro c hc
  simp only [components, h] at hc
  split at hc
  · exact .inl (List.mem_singleton.1 hc)
  · exact .inr (List.mem_singleton.1 hc)
  · cases hc

/-- What is kept before a component has a text, unless nothing is kept. -/
theorem kept_eq_nil {before : List (List Char)}
    (h : ['/'].intercalate (before.dropWhile isSilent).reverse = []) :
    before.dropWhile isSilent = [] := by
  have hhead := List.head?_dropWhile_not isSilent before
  cases hkept : (before.dropWhile isSilent).reverse with
  | nil => exact List.reverse_eq_nil_iff.1 hkept
  | cons a l =>
    rw [hkept] at h
    cases l with
    | nil =>
      rw [List.intercalate_singleton] at h
      rw [List.reverse_eq_iff.1 hkept, h] at hhead
      cases hhead
    | cons b l =>
      rw [List.intercalate_cons_cons, List.append_assoc] at h
      cases (List.append_eq_nil_iff.1 h).2

/-- Where there is a member, not all pieces are silent. -/
theorem dropWhile_isSilent_ne_nil {name : String} (h : .member name ∈ components path) :
    ((path.toList.drop (start path.toList).length).splitOn '/').reverse.dropWhile isSilent ≠ [] := by
  intro hdrop
  have hall := List.takeWhile_append_dropWhile (p := isSilent)
    (l := ((path.toList.drop (start path.toList).length).splitOn '/').reverse)
  rw [hdrop, List.append_nil] at hall
  have hsilent := components_of_silent (filterMap_component?_of_isSilent fun piece hpiece =>
    List.all_eq_true.1 List.all_takeWhile piece (hall ▸ List.mem_reverse.2 hpiece))
    (.member name) h
  rcases hsilent with heq | heq
  · cases heq
  · cases heq

/-- What has a name lies in something. -/
theorem exists_parent?_of_fileName? {name : String} (h : fileName? path = some name) :
    ∃ base, parent? path = some base := by
  have hmem : .member name ∈ components path := by
    rw [fileName?] at h
    split at h
    · next hlast =>
      cases h
      exact List.mem_of_getLast? hlast
    · cases h
  simp only [parent?]
  split
  · next hdrop => exact absurd hdrop (dropWhile_isSilent_ne_nil hmem)
  · exact ⟨_, rfl⟩

/-- **What holds a member** has the components before the member. -/
theorem exists_parent? {front : List Component} {name : String}
    (h : components path = front ++ [.member name]) (hfront : front ≠ []) :
    ∃ base, parent? path = some base ∧ base ≠ "" ∧ components base = front := by
  obtain ⟨base, hparent, hbase⟩ : ∃ base, parent? path = some base ∧ base ≠ "" := by
    have hmem : .member name ∈ components path :=
      h ▸ List.mem_append_right _ (List.mem_singleton_self _)
    simp only [parent?]
    split
    · next hdrop => exact absurd hdrop (dropWhile_isSilent_ne_nil hmem)
    · next last before hdrop =>
      refine ⟨_, rfl, fun hempty => ?_⟩
      obtain ⟨more, c, hbody, hmore⟩ := exists_eq_append_of_dropWhile hdrop
      have htext := congrArg String.toList hempty
      rw [String.toList_ofList] at htext
      obtain ⟨hstart, hkept⟩ := List.append_eq_nil_iff.1 htext
      rw [kept_eq_nil hkept, List.reverse_nil, List.nil_append] at hbody
      have hone : components path = [c] := by rw [components, hbody, hmore, hstart]
      rw [hone, ← List.nil_append [c]] at h
      exact hfront (List.append_inj' h rfl).1.symm
  obtain ⟨c, hc⟩ := exists_components_of_parent? hparent hbase
  exact ⟨base, hparent, hbase, (List.append_inj' (hc.symm.trans h) rfl).1⟩

/-! ### The ending of a name -/

theorem extension?_of_append {name : String} {front last : List Char}
    (h : fileName? path = some name) (hname : name.toList = front ++ '.' :: last)
    (hlast : '.' ∉ last) :
    extension? path = if front = [] then none else some (String.ofList last) := by
  have hending := Text.reverse_takeWhile_append hlast front
  rw [← hname] at hending
  have hlength : (name.toList.reverse.takeWhile (· != '.')).length = last.length := by
    rw [← List.length_reverse, hending]
  have hshort : last.length + 1 < name.length ↔ front ≠ [] := by
    rw [← String.length_toList, hname, List.length_append, List.length_cons, Ne,
      ← List.length_eq_zero_iff]
    omega
  simp only [extension?, h, hending, hlength, hshort, ite_not]

theorem extension?_of_not_mem {name : String} (h : fileName? path = some name)
    (hdot : '.' ∉ name.toList) : extension? path = none := by
  have hall : ∀ c ∈ name.toList.reverse, (c != '.') = true := fun c hc =>
    bne_iff_ne.2 fun heq => hdot (heq ▸ List.mem_reverse.1 hc)
  have hwhole : (name.toList.reverse ++ []).takeWhile (· != '.') = name.toList.reverse ++ [] :=
    List.takeWhile_append_of_pos hall
  rw [List.append_nil] at hwhole
  simp only [extension?, h, hwhole, List.length_reverse, String.length_toList]
  exact if_neg (by omega)

/-- **The ending of a name** is what comes after its last full stop, if that is not its first
character. -/
theorem extension?_eq_some_iff {name ending : String} (h : fileName? path = some name) :
    extension? path = some ending ↔
      '.' ∉ ending.toList ∧ ∃ stem, stem ≠ "" ∧ name = stem ++ "." ++ ending := by
  constructor
  · intro hextension
    by_cases hdot : '.' ∈ name.toList
    · obtain ⟨front, last, hname, hlast⟩ := Text.exists_append_last hdot
      rw [extension?_of_append h hname hlast] at hextension
      split at hextension
      · cases hextension
      · next hfront =>
        obtain rfl := Option.some.inj hextension
        refine ⟨by rwa [String.toList_ofList], String.ofList front,
          mt String.ofList_eq_empty_iff.1 hfront, String.toList_inj.1 ?_⟩
        simp [hname]
    · rw [extension?_of_not_mem h hdot] at hextension
      cases hextension
  · rintro ⟨hdot, stem, hstem, rfl⟩
    have hname : (stem ++ "." ++ ending).toList = stem.toList ++ '.' :: ending.toList := by simp
    rw [extension?_of_append h hname hdot, if_neg (mt String.toList_eq_nil_iff.1 hstem),
      String.ofList_toList]

end Path
end PackageListing
