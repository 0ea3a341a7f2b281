/-
# Plain spellings and relative paths

Of the components of a path, a plain spelling shows their texts and whether the root is among them,
and nothing else (`spell_congr`). Both can be read off the spelling again
(`filterMap_text?_components_spell`, `contains_root_components_spell`), so to spell a path plainly
twice is to do it once (`normalize_normalize`).

What is joined to a root has the components of the root and then those of its own cuts
(`components_join_of_relative`). So a file has one plain spelling as seen from the root, whether it
is named from there or by its absolute path (`relativeTo_join`, `relativeTo_of_relative`). What only
shares the text of the root, and not its components, is not below it (`not_isPrefix_of_sibling`).
The main statement is `relativeTo_by_components`.
-/

import PackageListing.Proofs.Path
import PackageListing.Query

namespace PackageListing
namespace Path

variable {root rel path : String} {cs ds rest : List Component}

/-! ### Plain spellings -/

/-- These texts are pieces that say something. -/
def AreSpoken (texts : List String) : Prop :=
  ∀ text ∈ texts, '/' ∉ text.toList ∧ isSilent text.toList = false

theorem areSpoken_texts (path : String) :
    AreSpoken ((components path).filterMap Component.text?) := by
  intro text htext
  rw [filterMap_text?_components] at htext
  obtain ⟨piece, hpiece, rfl⟩ := List.mem_map.1 htext
  obtain ⟨hcut, hspoken⟩ := List.mem_filter.1 hpiece
  rw [String.toList_ofList]
  exact ⟨Text.not_mem_of_mem_splitOn hcut, by simpa using hspoken⟩

/-- A plain spelling shows the texts, and whether the root is there. -/
theorem spell_congr (hroot : cs.contains .root = ds.contains .root)
    (htexts : cs.filterMap Component.text? = ds.filterMap Component.text?) :
    spell cs = spell ds := by
  rw [spell, spell, hroot, htexts]

namespace AreSpoken

variable {texts : List String}

theorem filter_cuts (h : AreSpoken texts) :
    ((cuts ("/".intercalate texts)).filter fun piece => !isSilent piece) =
      texts.map String.toList := by
  by_cases hne : texts = []
  · rw [hne]
    rfl
  · rw [cuts_intercalate hne fun text htext => (h text htext).1, List.filter_eq_self]
    intro piece hpiece
    obtain ⟨text, htext, rfl⟩ := List.mem_map.1 hpiece
    rw [(h text htext).2, Bool.not_false]

theorem eq_nil_of_intercalate (h : AreSpoken texts) (hempty : "/".intercalate texts = "") :
    texts = [] := by
  have hcuts := h.filter_cuts
  rw [hempty] at hcuts
  exact List.map_eq_nil_iff.1 hcuts.symm

/-- What is spoken between slashes begins with no slash. -/
theorem isAbsolute_intercalate (h : AreSpoken texts) :
    isAbsolute ("/".intercalate texts) = false := by
  cases texts with
  | nil => rfl
  | cons text texts =>
    have hspoken := (h text List.mem_cons_self).2
    have hne : text.toList ≠ [] := by
      intro hempty
      rw [hempty] at hspoken
      cases hspoken
    have hdot : text.toList ≠ ['.'] := by
      intro heq
      rw [heq] at hspoken
      cases hspoken
    have hstart : startComponents (cuts ("/".intercalate (text :: texts))) = [] := by
      rw [cuts_intercalate (List.cons_ne_nil _ _) fun t ht => (h t ht).1]
      simp [startComponents, hne, hdot]
    rw [isAbsolute_eq_contains, components_eq, hstart, List.nil_append]
    exact Bool.eq_false_iff.2 fun hmem => root_not_mem_filterMap _ (List.contains_iff_mem.1 hmem)

end AreSpoken

/-- A plain spelling is absolute, says nothing, or begins with what it says. -/
theorem spell_cases (h : AreSpoken (cs.filterMap Component.text?)) :
    (cs.contains .root = true ∧
        spell cs = "/" ++ "/".intercalate (cs.filterMap Component.text?)) ∨
      cs.contains .root = false ∧
        (cs.filterMap Component.text? = [] ∧ spell cs = "." ∨
          spell cs = "/".intercalate (cs.filterMap Component.text?)) := by
  rw [spell]
  split
  · next hroot => exact .inl ⟨hroot, rfl⟩
  · next hroot =>
    refine .inr ⟨Bool.eq_false_iff.2 hroot, ?_⟩
    split
    · next hempty => exact .inl ⟨h.eq_nil_of_intercalate (String.isEmpty_iff.1 hempty), rfl⟩
    · exact .inr rfl

theorem contains_root_components_spell (h : AreSpoken (cs.filterMap Component.text?)) :
    (components (spell cs)).contains .root = cs.contains .root := by
  rw [← isAbsolute_eq_contains]
  obtain ⟨hroot, hspell⟩ | ⟨hroot, ⟨-, hspell⟩ | hspell⟩ := spell_cases h
  · rw [hspell, hroot, isAbsolute, String.toList_append]
    rfl
  · rw [hspell, hroot]
    rfl
  · rw [hspell, hroot]
    exact h.isAbsolute_intercalate

theorem filterMap_text?_components_spell (h : AreSpoken (cs.filterMap Component.text?)) :
    (components (spell cs)).filterMap Component.text? = cs.filterMap Component.text? := by
  have hcuts : ((cuts (spell cs)).filter fun piece => !isSilent piece) =
      (cs.filterMap Component.text?).map String.toList := by
    obtain ⟨-, hspell⟩ | ⟨-, ⟨htexts, hspell⟩ | hspell⟩ := spell_cases h
    · have hsplit : cuts (spell cs) =
          [] :: cuts ("/".intercalate (cs.filterMap Component.text?)) := by
        rw [hspell, cuts, String.toList_append]
        exact List.splitOn_append_cons_self [] _
      rw [hsplit, List.filter_cons_of_neg (by decide), h.filter_cuts]
    · rw [hspell, htexts]
      rfl
    · rw [hspell, h.filter_cuts]
  rw [filterMap_text?_components, hcuts, List.map_map]
  exact (List.map_congr_left fun text _ => String.ofList_toList).trans (List.map_id _)

/-- **To spell a path plainly twice is to do it once.** -/
theorem normalize_normalize (path : String) : normalize (normalize path) = normalize path := by
  have h := areSpoken_texts path
  exact spell_congr (contains_root_components_spell h) (filterMap_text?_components_spell h)

/-! ### What is below a root -/

/-- The root stands nowhere but at the start. -/
theorem root_not_mem_of_components_eq (hcs : cs ≠ []) (h : components path = cs ++ rest) :
    .root ∉ rest := by
  obtain ⟨c, cs, rfl⟩ := List.exists_cons_of_ne_nil hcs
  rw [components_eq] at h
  have hroot := root_not_mem_filterMap (cuts path)
  generalize (cuts path).filterMap component? = members at h hroot
  have hone : startComponents (cuts path) = [] ∨ ∃ c, startComponents (cuts path) = [c] := by
    rw [startComponents]
    split
    · exact .inr ⟨_, rfl⟩
    · split
      · exact .inr ⟨_, rfl⟩
      · exact .inl rfl
  obtain hstart | ⟨c', hstart⟩ := hone
  · rw [hstart, List.nil_append] at h
    exact fun hmem => hroot (h ▸ List.mem_append_right _ hmem)
  · rw [hstart, List.singleton_append, List.cons_append] at h
    rw [(List.cons.inj h).2] at hroot
    exact fun hmem => hroot (List.mem_append_right _ hmem)

theorem ne_nil_of_isAbsolute (h : isAbsolute path = true) : components path ≠ [] := by
  rw [isAbsolute_eq_contains] at h
  exact List.ne_nil_of_mem (List.contains_iff_mem.1 h)

/-- **What is joined to a root** has the components of the root and then its own. -/
theorem components_join_of_relative (hroot : root ≠ "") (hrel : isAbsolute rel = false) :
    components (join root rel) = components root ++ (cuts rel).filterMap component? := by
  obtain ⟨before, hleads, hcuts⟩ := leads_of_join hroot hrel
  exact hleads.components_eq (cuts_ne_nil rel) hcuts

/-- The current directory at the start of a path does not show in its plain spelling. -/
theorem spell_filterMap_component? (hrel : isAbsolute rel = false) :
    spell ((cuts rel).filterMap component?) = normalize rel := by
  refine spell_congr ?_ ?_
  · rw [← isAbsolute_eq_contains, hrel]
    exact Bool.eq_false_iff.2 fun h => root_not_mem_filterMap _ (List.contains_iff_mem.1 h)
  · rw [components_eq, List.filterMap_append, startComponents]
    split
    · rfl
    · split
      · rfl
      · rfl

theorem relativeTo_of_components_eq (h : components path = components root ++ rest) :
    relativeTo root path = spell rest := by
  rw [relativeTo, componentsAfter?_eq_some.2 h]

theorem relativeTo_of_not_isPrefix (h : ¬components root <+: components path) :
    relativeTo root path = normalize path := by
  rw [relativeTo]
  split
  · next rest hrest => exact absurd ⟨rest, (componentsAfter?_eq_some.1 hrest).symm⟩ h
  · rfl

section Root

variable (hroot : isAbsolute root = true)

include hroot

/-- **A path that is joined to the root** is seen from there as it is. -/
theorem relativeTo_join (hrel : isAbsolute rel = false) :
    relativeTo root (join root rel) = normalize rel := by
  rw [relativeTo_of_components_eq
    (components_join_of_relative (ne_empty_of_isAbsolute hroot) hrel),
    spell_filterMap_component? hrel]

/-- **A relative path** is taken as seen from the root already. -/
theorem relativeTo_of_relative (hrel : isAbsolute rel = false) :
    relativeTo root rel = normalize rel := by
  refine relativeTo_of_not_isPrefix fun h => ?_
  rw [isAbsolute_eq_contains] at hroot hrel
  have hmem := h.subset (List.contains_iff_mem.1 hroot)
  exact Bool.eq_false_iff.1 hrel (List.contains_iff_mem.2 hmem)

/-- **What is below the root is seen from there as a relative path,** and no other absolute path
is. -/
theorem isAbsolute_relativeTo (hpath : isAbsolute path = true) :
    isAbsolute (relativeTo root path) = false ↔ components root <+: components path := by
  have h := areSpoken_texts path
  constructor
  · intro hrelative
    by_cases hunder : components root <+: components path
    · exact hunder
    · rw [relativeTo_of_not_isPrefix hunder, isAbsolute_eq_contains, normalize,
        contains_root_components_spell h, ← isAbsolute_eq_contains, hpath] at hrelative
      cases hrelative
  · rintro ⟨rest, hrest⟩
    have hrest := hrest.symm
    have htexts : AreSpoken (rest.filterMap Component.text?) := by
      rw [hrest, List.filterMap_append] at h
      exact fun text htext => h text (List.mem_append_right _ htext)
    rw [relativeTo_of_components_eq hrest, isAbsolute_eq_contains,
      contains_root_components_spell htexts]
    refine Bool.eq_false_iff.2 fun hmem => ?_
    exact root_not_mem_of_components_eq (ne_nil_of_isAbsolute hroot) hrest
      (List.contains_iff_mem.1 hmem)

end Root

/-- **A sibling of a directory is not below it,** whatever text the two names share, and nor is
anything below the sibling. -/
theorem not_isPrefix_of_sibling {directory name other : String} (hdirectory : directory ≠ "")
    (hname : IsName name) (hother : IsName other) (hne : name ≠ other)
    (hrel : isAbsolute rel = false) :
    ¬components (join directory name) <+: components (join (join directory other) rel) := by
  have hjoin : join directory other ≠ "" := by
    intro hempty
    have hcomponents := components_join hdirectory hother
    rw [hempty] at hcomponents
    exact List.append_ne_nil_of_right_ne_nil _ (List.cons_ne_nil _ _) hcomponents.symm
  rw [components_join_of_relative hjoin hrel, components_join hdirectory hname,
    components_join hdirectory hother, List.append_assoc, List.prefix_append_right_inj,
    List.singleton_append, List.cons_prefix_cons]
  rintro ⟨hmember, -⟩
  exact hne (Component.member.inj hmember)

/-- **A path is seen from the root by its components.** What has the components of the root is
spelt by those after them, and all else is spelt plainly as it is: so one file has one spelling,
and one term of a query, by its absolute path and by its path from the root. -/
theorem relativeTo_by_components (hroot : isAbsolute root = true) (hrel : isAbsolute rel = false)
    (path : String) :
    normalize (normalize path) = normalize path ∧
      (relativeTo root (join root rel) = normalize rel ∧ relativeTo root rel = normalize rel ∧
        Query.fileTerm root (join root rel) = Query.fileTerm root rel) ∧
      (∀ rest, components path = components root ++ rest → relativeTo root path = spell rest) ∧
      (¬components root <+: components path → relativeTo root path = normalize path) ∧
      (isAbsolute path = true →
        (isAbsolute (relativeTo root path) = false ↔ components root <+: components path)) ∧
      ∀ directory name other below, root = join directory name → IsName name → IsName other →
        name ≠ other → isAbsolute below = false →
          relativeTo root (join (join directory other) below) =
            normalize (join (join directory other) below) := by
  have hjoin := relativeTo_join hroot hrel
  have hrelative := relativeTo_of_relative hroot hrel
  have hterm : Query.fileTerm root (join root rel) = Query.fileTerm root rel := by
    unfold Query.fileTerm
    rw [hjoin, hrelative]
  refine ⟨normalize_normalize path, ⟨hjoin, hrelative, hterm⟩,
    fun rest => relativeTo_of_components_eq, relativeTo_of_not_isPrefix,
    isAbsolute_relativeTo hroot, ?_⟩
  rintro directory name other below rfl hname hother hne hbelow
  refine relativeTo_of_not_isPrefix (not_isPrefix_of_sibling ?_ hname hother hne hbelow)
  rintro rfl
  have hempty : join "" name = name := by
    rw [join, if_neg (by rw [isAbsolute_of_isName hname]; exact Bool.false_ne_true)]
    exact String.empty_append
  rw [hempty, isAbsolute_of_isName hname] at hroot
  cases hroot

theorem relativeTo_workspace :
    (isAbsolute "/ws" = true ∧ isAbsolute "./a//b.go/" = false ∧
        relativeTo "/ws" "/ws/./a//b.go/" = "a/b.go" ∧ relativeTo "/ws" "./a//b.go/" = "a/b.go") ∧
      (components "/ws/./../c.go" = components "/ws" ++ [.parent, .member "c.go"] ∧
        relativeTo "/ws" "/ws/./../c.go" = "../c.go") ∧
      ("/ws" = join "/" "ws" ∧ IsName "ws" ∧ IsName "wsx" ∧ "ws" ≠ "wsx" ∧
        isAbsolute "./d.go" = false ∧ relativeTo "/ws" "/wsx/./d.go" = "/wsx/d.go") ∧
      isAbsolute "/wsx/./d.go" = true ∧ ¬components "/ws" <+: components "/wsx/./d.go" := by
  have hroot : isAbsolute "/ws" = true := rfl
  have hrel : isAbsolute "./a//b.go/" = false := rfl
  have hcomponents :
      components "/ws/./../c.go" = components "/ws" ++ [.parent, .member "c.go"] := by
    decide +kernel
  have hjoin : join "/ws" "./a//b.go/" = "/ws/./a//b.go/" := by decide +kernel
  have hspelt : normalize "./a//b.go/" = "a/b.go" := by decide +kernel
  obtain ⟨-, ⟨habove, hbelow, -⟩, hrest, -⟩ := relativeTo_by_components hroot hrel "/ws/./../c.go"
  obtain ⟨-, -, -, -, hunder, hsibling⟩ := relativeTo_by_components hroot hrel "/wsx/./d.go"
  have hother := hsibling "/" "ws" "wsx" "./d.go" (by decide +kernel) (by decide) (by decide)
    (by decide) rfl
  rw [hjoin, hspelt] at habove
  rw [hspelt] at hbelow
  have hplace : join (join "/" "wsx") "./d.go" = "/wsx/./d.go" := by decide +kernel
  have hplain : normalize "/wsx/./d.go" = "/wsx/d.go" := by decide +kernel
  rw [hplace, hplain] at hother
  refine ⟨⟨hroot, hrel, habove, hbelow⟩,
    ⟨hcomponents, (hrest _ hcomponents).trans (by decide +kernel)⟩,
    ⟨by decide +kernel, by decide, by decide, by decide, rfl, hother⟩, rfl, fun h => ?_⟩
  have hrelative := (hunder rfl).2 h
  rw [hother] at hrelative
  cases hrelative

end Path
end PackageListing
