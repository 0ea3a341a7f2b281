/-
# Two readings of a list of entries

The value of a name is searched for from the end of a list of entries, and an environment is changed
by the entries from their start. A last entry counts before all others in both readings
(`valueIn?_concat`, `get?_overlay_concat`), so each name that the list sets has the same value in
both, and every other name keeps the value that it had (`get?_overlay_entries`).

The value is that of the last entry for the name (`valueIn?_eq_some_iff`), and there is none where
no entry sets the name (`valueIn?_eq_none_iff`). What has no equality sign is no entry and says
nothing in either reading (`filterMap_entry?_entriesOf`, `valueIn?_entriesOf`).
-/

import Mathlib.Data.List.Induction
import PackageListing.Proofs.Environment

namespace PackageListing
namespace Environment

/-- One of the entries sets the name. -/
def IsSet (entries : List String) (name : String) : Prop :=
  '=' ∉ name.toList ∧ ∃ value, name ++ "=" ++ value ∈ entries

/-- The last of the entries for the name gives it the value, which may hold equality signs. -/
def IsLastValue (entries : List String) (name value : String) : Prop :=
  '=' ∉ name.toList ∧ ∃ before after, entries = before ++ (name ++ "=" ++ value) :: after ∧
    ∀ other, name ++ "=" ++ other ∉ after

/-- The texts in a list that have an equality sign. -/
def entriesOf (texts : List String) : List String :=
  texts.filter fun text => text.toList.contains '='

variable {entries : List String} {name value : String}

theorem IsLastValue.isSet (h : IsLastValue entries name value) : IsSet entries name := by
  obtain ⟨hname, before, after, rfl, -⟩ := h
  exact ⟨hname, value, List.mem_append_right before List.mem_cons_self⟩

/-! ### The search from the end -/

/-- The value that an entry gives to a name. -/
def given? (name e : String) : Option String :=
  match entry? e with
  | some (key, value) => if key = name then some value else none
  | none => none

theorem valueIn?_eq_findSome? (entries : List String) (name : String) :
    valueIn? entries name = entries.reverse.findSome? (given? name) :=
  rfl

theorem given?_eq_some_iff {e : String} :
    given? name e = some value ↔ e = name ++ "=" ++ value ∧ '=' ∉ name.toList := by
  rw [← entry?_eq_some_iff, given?]
  split
  · next key found hentry =>
    rw [hentry]
    by_cases hkey : key = name
    · simp [hkey]
    · simp [hkey]
  · next hentry => simp [hentry]

theorem given?_eq_none_iff {e : String} :
    given? name e = none ↔ ∀ value, ¬(e = name ++ "=" ++ value ∧ '=' ∉ name.toList) := by
  rw [Option.eq_none_iff_forall_ne_some]
  exact forall_congr' fun value => not_congr given?_eq_some_iff

/-- **The last entry for a name counts.** -/
theorem valueIn?_eq_some_iff :
    valueIn? entries name = some value ↔ IsLastValue entries name value := by
  rw [valueIn?_eq_findSome?, List.findSome?_eq_some_iff]
  simp only [given?_eq_some_iff, given?_eq_none_iff]
  constructor
  · rintro ⟨after, e, before, heq, ⟨rfl, hname⟩, hafter⟩
    refine ⟨hname, before.reverse, after.reverse, ?_, fun other hother => ?_⟩
    · rw [← List.reverse_inj, heq]
      simp
    · exact hafter _ (List.mem_reverse.1 hother) other ⟨rfl, hname⟩
  · rintro ⟨hname, before, after, rfl, hafter⟩
    refine ⟨after.reverse, _, before.reverse, by simp, ⟨rfl, hname⟩, ?_⟩
    rintro e he other ⟨rfl, -⟩
    exact hafter other (List.mem_reverse.1 he)

theorem valueIn?_eq_none_iff : valueIn? entries name = none ↔ ¬IsSet entries name := by
  rw [valueIn?_eq_findSome?, List.findSome?_eq_none_iff]
  simp only [given?_eq_none_iff, List.mem_reverse]
  constructor
  · rintro h ⟨hname, value, hmem⟩
    exact h _ hmem value ⟨rfl, hname⟩
  · rintro h e he value ⟨rfl, hname⟩
    exact h ⟨hname, value, he⟩

theorem exists_isLastValue (h : IsSet entries name) : ∃ value, IsLastValue entries name value := by
  have hfound : valueIn? entries name ≠ none := mt valueIn?_eq_none_iff.1 (not_not_intro h)
  obtain ⟨value, hvalue⟩ := Option.ne_none_iff_exists'.1 hfound
  exact ⟨value, valueIn?_eq_some_iff.1 hvalue⟩

/-! ### Changes from the start -/

theorem valueIn?_concat (entries : List String) (e name : String) :
    valueIn? (entries ++ [e]) name =
      match entry? e with
      | some (key, value) => if key = name then some value else valueIn? entries name
      | none => valueIn? entries name := by
  rw [valueIn?_eq_findSome?, List.reverse_append, List.reverse_singleton, List.singleton_append,
    List.findSome?_cons, given?]
  cases entry? e with
  | none => rfl
  | some found =>
    by_cases hkey : found.1 = name
    · simp [hkey]
    · simp [hkey, valueIn?_eq_findSome?]

theorem get?_overlay_concat (env : Environment) (changes : List (String × String))
    (key value name : String) :
    (overlay env (changes ++ [(key, value)])).get? name =
      if name = key then some value else (overlay env changes).get? name := by
  rw [overlay, List.foldl_append, List.foldl_cons, List.foldl_nil, Names.Map.get?_insert]
  simp only [beq_iff_eq]
  rfl

/-- **Both readings agree:** a name has the value that the entries give it, or the one it had. -/
theorem get?_overlay_entries (env : Environment) (entries : List String) (name : String) :
    (overlay env (entries.filterMap entry?)).get? name =
      (valueIn? entries name).or (env.get? name) := by
  -- The last entry counts before all others in both readings, so the induction is from the end.
  induction entries using List.reverseRecOn with
  | nil => rfl
  | append_singleton entries e ih =>
    rw [valueIn?_concat, List.filterMap_append]
    cases hentry : entry? e with
    | none => rw [List.filterMap_cons_none hentry, List.filterMap_nil, List.append_nil, ih]
    | some found =>
      rw [List.filterMap_cons_some hentry, List.filterMap_nil, get?_overlay_concat, ih]
      by_cases hkey : found.1 = name
      · simp [hkey]
      · simp [hkey, Ne.symm hkey]

/-! ### Texts that are no entries -/

theorem filterMap_entry?_entriesOf (texts : List String) :
    (entriesOf texts).filterMap entry? = texts.filterMap entry? := by
  rw [entriesOf, List.filterMap_filter]
  refine congrArg (List.filterMap · texts) (funext fun text => ?_)
  split
  · rfl
  · next h => exact (entry?_eq_none_iff.2 fun hsign => h (List.contains_iff_mem.2 hsign)).symm

theorem valueIn?_entriesOf (texts : List String) (name : String) :
    valueIn? (entriesOf texts) name = valueIn? texts name := by
  have hvalue (texts : List String) :
      valueIn? texts name = (overlay .empty (texts.filterMap entry?)).get? name := by
    rw [get?_overlay_entries, Names.Map.get?_empty, Option.or_none]
  rw [hvalue, hvalue, filterMap_entry?_entriesOf]

end Environment
end PackageListing
