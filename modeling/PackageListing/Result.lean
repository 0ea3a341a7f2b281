/-
# Results in a row

Of two steps in a row the second goes on with the result of the first. The row has a result where
both steps have one (`bind_eq_ok`), and a step whose failure is reworded has the results that it
had before (`mapError_eq_ok`). A step for each member of a list has results where each of them has
one (`exists_mapM_eq_ok_iff`, `mapM_eq_ok_iff`), and else it fails as the first step does that has
none (`mapM_eq_error_iff`). Two steps for each member have results where one row after the other has
them (`mapM_bind_eq_ok_iff`). Where each gives back what it was made of they give the list back
(`mapM_map_eq_ok`), and to take up each result at once comes to taking them all up in the end
(`foldlM_map`). The laws hold for any kind of failure.
-/

namespace PackageListing
namespace Result

variable {ε ε' α β γ : Type}

theorem bind_eq_ok {x : Except ε α} {f : α → Except ε β} {y : β} :
    (x >>= f) = .ok y ↔ ∃ a, x = .ok a ∧ f a = .ok y := by
  cases x with
  | error e => exact ⟨fun h => (nomatch h), fun ⟨_, h, _⟩ => (nomatch h)⟩
  | ok a => exact ⟨fun h => ⟨a, rfl, h⟩, fun ⟨_, h, hf⟩ => by cases h; exact hf⟩

theorem map_eq_ok {x : Except ε α} {f : α → β} {y : β} :
    f <$> x = .ok y ↔ ∃ a, x = .ok a ∧ f a = y := by
  cases x with
  | error e => exact ⟨fun h => (nomatch h), fun ⟨_, h, _⟩ => (nomatch h)⟩
  | ok a => exact ⟨fun h => ⟨a, rfl, Except.ok.inj h⟩, fun ⟨_, h, hf⟩ => by cases h; exact hf ▸ rfl⟩

theorem map_eq_error_iff {x : Except ε α} {f : α → β} {e : ε} :
    f <$> x = .error e ↔ x = .error e := by
  cases x with
  | error e' => exact ⟨fun h => by cases h; rfl, fun h => by cases h; rfl⟩
  | ok a => exact ⟨fun h => (by cases h), fun h => (by cases h)⟩

theorem not_ok_iff {x : Except ε α} : (¬ ∃ a, x = .ok a) ↔ ∃ e, x = .error e := by
  cases x <;> simp

theorem mapError_eq_ok {x : Except ε α} {f : ε → ε'} {a : α} :
    x.mapError f = .ok a ↔ x = .ok a := by
  cases x with
  | error e => exact ⟨fun h => (nomatch h), fun h => (nomatch h)⟩
  | ok a' => exact ⟨fun h => by cases h; rfl, fun h => by cases h; rfl⟩

theorem exists_mapM_eq_ok_iff {f : α → Except ε β} {l : List α} :
    (∃ bs, l.mapM f = .ok bs) ↔ ∀ a ∈ l, ∃ b, f a = .ok b := by
  induction l with
  | nil => exact ⟨fun _ => List.forall_mem_nil _, fun _ => ⟨[], rfl⟩⟩
  | cons a l ih =>
    rw [List.forall_mem_cons, ← ih]
    constructor
    · rintro ⟨bs, h⟩
      rw [List.mapM_cons] at h
      obtain ⟨b, hb, h⟩ := bind_eq_ok.1 h
      obtain ⟨bs', hbs', -⟩ := bind_eq_ok.1 h
      exact ⟨⟨b, hb⟩, bs', hbs'⟩
    · rintro ⟨⟨b, hb⟩, bs, hbs⟩
      refine ⟨b :: bs, ?_⟩
      rw [List.mapM_cons]
      exact bind_eq_ok.2 ⟨b, hb, bind_eq_ok.2 ⟨bs, hbs, rfl⟩⟩

/-- `f` has the results that `g` says, where it has results. -/
theorem mapM_eq_ok_iff {f : α → Except ε β} {g : α → β} (h : ∀ {a b}, f a = .ok b → g a = b)
    {l : List α} {bs : List β} :
    l.mapM f = .ok bs ↔ (∀ a ∈ l, ∃ b, f a = .ok b) ∧ bs = l.map g := by
  induction l generalizing bs with
  | nil => simp [pure, Except.pure, eq_comm]
  | cons a l ih =>
    rw [List.mapM_cons, bind_eq_ok, List.forall_mem_cons, List.map_cons]
    constructor
    · rintro ⟨b, hb, hrest⟩
      obtain ⟨bs', hbs', hbs⟩ := bind_eq_ok.1 hrest
      obtain ⟨hall, rfl⟩ := ih.1 hbs'
      cases hbs
      exact ⟨⟨⟨b, hb⟩, hall⟩, by rw [h hb]⟩
    · rintro ⟨⟨⟨b, hb⟩, hall⟩, rfl⟩
      exact ⟨b, hb, bind_eq_ok.2 ⟨l.map g, ih.2 ⟨hall, rfl⟩, by rw [h hb]; rfl⟩⟩

/-- **The first failure is the failure of the row.** -/
theorem mapM_eq_error_iff {f : α → Except ε β} {l : List α} {e : ε} :
    l.mapM f = .error e ↔ ∃ before a after, l = before ++ a :: after ∧
      (∀ b ∈ before, ∃ y, f b = .ok y) ∧ f a = .error e := by
  induction l with
  | nil => simp [pure, Except.pure]
  | cons a l ih =>
    rw [List.mapM_cons]
    cases ha : f a with
    | error e' =>
      constructor
      · intro h
        cases h
        exact ⟨[], a, l, rfl, List.forall_mem_nil _, ha⟩
      · rintro ⟨before, b, after, heq, hbefore, hb⟩
        cases before with
        | nil =>
          obtain ⟨rfl, -⟩ := List.cons.inj heq
          cases ha.symm.trans hb
          rfl
        | cons first before =>
          obtain ⟨rfl, -⟩ := List.cons.inj heq
          obtain ⟨y, hy⟩ := hbefore a List.mem_cons_self
          cases ha.symm.trans hy
    | ok y =>
      change (l.mapM f >>= fun ys => pure (y :: ys)) = .error e ↔ _
      rw [bind_pure_comp, map_eq_error_iff, ih]
      constructor
      · rintro ⟨before, b, after, rfl, hbefore, hb⟩
        exact ⟨a :: before, b, after, rfl, List.forall_mem_cons.2 ⟨⟨y, ha⟩, hbefore⟩, hb⟩
      · rintro ⟨before, b, after, heq, hbefore, hb⟩
        cases before with
        | nil =>
          obtain ⟨rfl, -⟩ := List.cons.inj heq
          cases ha.symm.trans hb
        | cons first before =>
          obtain ⟨-, heq⟩ := List.cons.inj heq
          exact ⟨before, b, after, heq, (List.forall_mem_cons.1 hbefore).2, hb⟩

theorem mapM_map_eq_ok {f : β → Except ε α} {g : α → β} {l : List α}
    (h : ∀ a ∈ l, f (g a) = .ok a) : (l.map g).mapM f = .ok l := by
  induction l with
  | nil => rfl
  | cons a l ih =>
    obtain ⟨ha, hl⟩ := List.forall_mem_cons.1 h
    rw [List.map_cons, List.mapM_cons, ha]
    exact bind_eq_ok.2 ⟨a, rfl, bind_eq_ok.2 ⟨l, ih hl, rfl⟩⟩

/-- Two steps for each member have results where the first ones have, and then the second ones. -/
theorem mapM_bind_eq_ok_iff {g : α → Except ε β} {f : β → Except ε γ} {l : List α} {cs : List γ} :
    (l.mapM fun a => g a >>= f) = .ok cs ↔ ∃ bs, l.mapM g = .ok bs ∧ bs.mapM f = .ok cs := by
  induction l generalizing cs with
  | nil =>
    refine ⟨fun h => ⟨[], rfl, h⟩, ?_⟩
    rintro ⟨_, h, hcs⟩
    cases h
    exact hcs
  | cons a l ih =>
    rw [List.mapM_cons, List.mapM_cons]
    constructor
    · intro h
      obtain ⟨c, hc, h⟩ := bind_eq_ok.1 h
      obtain ⟨b, hb, hfb⟩ := bind_eq_ok.1 hc
      obtain ⟨cs', hcs, h⟩ := bind_eq_ok.1 h
      obtain ⟨bs, hbs, hmapM⟩ := ih.1 hcs
      cases h
      refine ⟨b :: bs, bind_eq_ok.2 ⟨b, hb, bind_eq_ok.2 ⟨bs, hbs, rfl⟩⟩, ?_⟩
      rw [List.mapM_cons]
      exact bind_eq_ok.2 ⟨c, hfb, bind_eq_ok.2 ⟨cs', hmapM, rfl⟩⟩
    · rintro ⟨_, h, hmapM⟩
      obtain ⟨b, hb, h⟩ := bind_eq_ok.1 h
      obtain ⟨bs, hbs, h⟩ := bind_eq_ok.1 h
      cases h
      rw [List.mapM_cons] at hmapM
      obtain ⟨c, hc, hmapM⟩ := bind_eq_ok.1 hmapM
      obtain ⟨cs', hcs, h⟩ := bind_eq_ok.1 hmapM
      cases h
      exact bind_eq_ok.2 ⟨c, bind_eq_ok.2 ⟨b, hb, hc⟩, bind_eq_ok.2 ⟨cs', ih.2 ⟨bs, hbs, hcs⟩, rfl⟩⟩

/-- **Results may be taken up one by one,** each as soon as it is there. -/
theorem foldlM_map {f : α → Except ε β} {take : γ → β → γ} (l : List α) (c : γ) :
    l.foldlM (fun c a => take c <$> f a) c = (fun bs => bs.foldl take c) <$> l.mapM f := by
  induction l generalizing c with
  | nil => rfl
  | cons a l ih =>
    rw [List.foldlM_cons, List.mapM_cons]
    cases f a with
    | error e => rfl
    | ok b =>
      refine (ih (take c b)).trans ?_
      cases l.mapM f with
      | error e => rfl
      | ok bs => rfl

end Result
end PackageListing
