/-
# Joined paths

What is joined to a path comes after the path and a slash (`join_eq_append`). So the path is part of
the text of what is joined to it, and what holds a member of a path is no longer than the path
(`isWithin_of_parent?`): it is a path with the same components, which may be spelt shorter
(`exists_parent?_join`).
-/

import PackageListing.Proofs.Path

namespace PackageListing
namespace Path

variable {base path name : String}

theorem join_ne_empty (hbase : base ≠ "") (hpath : isAbsolute path = false) :
    join base path ≠ "" := by
  obtain ⟨front, c, hconcat⟩ := exists_concat_of_ne_empty hbase
  have hjoin := toList_join_concat hconcat hpath
  intro hempty
  rw [hempty, hconcat] at hjoin
  split at hjoin
  · simp at hjoin
  · simp at hjoin

theorem join_eq_append (hbase : base ≠ "") (hpath : isAbsolute path = false) :
    join base path = join base "" ++ path := by
  obtain ⟨front, c, hconcat⟩ := exists_concat_of_ne_empty hbase
  refine String.toList_inj.1 ?_
  rw [String.toList_append, toList_join_concat hconcat hpath, toList_join_concat hconcat rfl]
  split
  · rw [String.toList_empty, List.append_nil]
  · rw [List.append_assoc]
    rfl

/-- A name is followed by a slash before what is joined to it. -/
theorem join_join_empty (hbase : base ≠ "") (hname : IsName name) :
    join (join base name) "" = join base name ++ "/" := by
  have hrelative := isAbsolute_of_isName hname
  obtain ⟨front, c, hconcat⟩ := exists_concat_of_ne_empty hname.1
  have hc : c ≠ '/' := by
    rintro rfl
    exact hname.2.2.2 (hconcat ▸ List.mem_append_right _ (List.mem_singleton_self _))
  have htext : (join base name).toList = ((join base "").toList ++ front) ++ [c] := by
    rw [join_eq_append hbase hrelative, String.toList_append, hconcat, List.append_assoc]
  refine String.toList_inj.1 ?_
  rw [toList_join_concat htext rfl, if_neg hc, String.toList_append]
  rfl

/-- The text of a path with a slash ends in it. -/
theorem getLast?_toList_join_empty (hbase : base ≠ "") :
    (join base "").toList.getLast? = some '/' := by
  obtain ⟨front, c, hconcat⟩ := exists_concat_of_ne_empty hbase
  rw [toList_join_concat hconcat rfl]
  split
  · next hc => rw [String.toList_empty, List.append_nil, hconcat, hc, List.getLast?_concat]
  · exact List.getLast?_concat

theorem exists_join_empty (hbase : base ≠ "") : ∃ slash, join base "" = base ++ slash := by
  obtain ⟨front, c, hconcat⟩ := exists_concat_of_ne_empty hbase
  have hjoin : (join base "").toList = _ := toList_join_concat hconcat rfl
  split at hjoin
  · exact ⟨"", String.toList_inj.1 (by rw [hjoin, String.toList_append])⟩
  · exact ⟨"/", String.toList_inj.1 (by rw [hjoin, String.toList_append]; rfl)⟩

theorem fileName?_join (hbase : base ≠ "") (hname : IsName name) :
    fileName? (join base name) = some name := by
  rw [fileName?, components_join hbase hname, List.getLast?_concat]

/-- The path with a slash is part of the text of another one. -/
def IsWithin (path path' : String) : Prop :=
  ∃ before after, join path' "" = before ++ join path "" ++ after

/-- A slash comes to a path wherever its text stands. -/
theorem join_append_empty (before : String) (hpath : path ≠ "") :
    join (before ++ path) "" = before ++ join path "" := by
  obtain ⟨front, c, hconcat⟩ := exists_concat_of_ne_empty hpath
  have htext : (before ++ path).toList = (before.toList ++ front) ++ [c] := by
    rw [String.toList_append, hconcat, List.append_assoc]
  refine String.toList_inj.1 ?_
  rw [String.toList_append, toList_join_concat htext rfl, toList_join_concat hconcat rfl,
    String.toList_append]
  split
  · rw [List.append_assoc]
  · rw [List.append_assoc]

theorem IsWithin.append {path' : String} (h : IsWithin path path') (before : String)
    (hpath' : path' ≠ "") : IsWithin path (before ++ path') := by
  obtain ⟨front, after, htext⟩ := h
  refine ⟨before ++ front, after, ?_⟩
  rw [join_append_empty before hpath', htext, String.append_assoc, String.append_assoc,
    String.append_assoc]

/-- **What holds a member of a path** is no longer than the path. -/
theorem isWithin_of_parent? {dir : String} (hbase : base ≠ "") (hname : IsName name)
    (hparent : parent? (join base name) = some dir) (hdir : dir ≠ "") : IsWithin dir base := by
  obtain ⟨before, more, c, hleads, hcuts, hmore⟩ := leads_of_parent? hparent hdir
  have hne : more ≠ [] := by
    rintro rfl
    cases hmore
  have hshorter := hleads.isPrefix_toList_join hne hcuts
  rw [join_eq_append hbase (isAbsolute_of_isName hname), String.toList_append] at hshorter
  have hshort : (join dir "").toList <+: (join base "").toList := by
    rcases List.prefix_or_prefix_of_prefix hshorter (List.prefix_append _ name.toList) with h | h
    · exact h
    · obtain ⟨rest, hrest⟩ := h
      rw [← hrest, List.prefix_append_right_inj] at hshorter
      rcases List.eq_nil_or_concat rest with rfl | ⟨front, last, rfl⟩
      · have hsame : (join base "").toList = (join dir "").toList := by
          rw [← hrest, List.append_nil]
        exact hsame ▸ List.prefix_rfl
      · -- The text of the directory ends in a slash, and there is none in the name.
        have hlast := getLast?_toList_join_empty hdir
        rw [← hrest, List.concat_eq_append, ← List.append_assoc, List.getLast?_concat] at hlast
        obtain rfl := Option.some.inj hlast
        exact absurd (hshorter.subset (by simp)) hname.2.2.2
  obtain ⟨after, hafter⟩ := hshort
  refine ⟨"", String.ofList after, String.toList_inj.1 ?_⟩
  rw [String.empty_append, String.toList_append, String.toList_ofList, hafter]

/-- **The directory that holds a member** of a path has the components of the path. -/
theorem exists_parent?_join (hbase : base ≠ "") (hname : IsName name) :
    ∃ dir, parent? (join base name) = some dir ∧ dir ≠ "" ∧ components dir = components base ∧
      IsWithin dir base := by
  obtain ⟨dir, hparent, hdir, hcomponents⟩ := exists_parent? (components_join hbase hname)
    fun hnil => hbase (eq_empty_of_components_eq_nil hnil)
  exact ⟨dir, hparent, hdir, hcomponents, isWithin_of_parent? hbase hname hparent hdir⟩

end Path
end PackageListing
