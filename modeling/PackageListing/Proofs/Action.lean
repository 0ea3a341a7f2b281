/-
# Actions in a row

An action goes from one state to the next and gives a result or a failure. Of two actions in a row
the second starts where the first ends, and only after the first has succeeded (`bind_apply`). So a
row of actions succeeds when each does from the state that the one before it left (`bind_eq_ok`).
The laws hold for any kind of state and failure. Where the second leaves the machine alone, the row
leaves it as the first does (`bind_ofExcept_apply`, `bind_pure_apply`). Of changes in a row, what
each of them keeps up holds in the end (`forM_change_induction`).
-/

import PackageListing.Machine

namespace PackageListing
namespace Action

variable {ε σ α β : Type}

theorem bind_apply (a : ExceptT ε (StateM σ) α) (f : α → ExceptT ε (StateM σ) β) (s : σ) :
    (a >>= f) s =
      match a s with
      | (.ok x, s') => f x s'
      | (.error e, s') => (.error e, s') := by
  show ExceptT.bind a f s = _
  simp only [ExceptT.bind, ExceptT.mk, bind, StateT.bind, ExceptT.bindCont]
  rcases a s with ⟨x | e, s'⟩ <;> rfl

theorem bind_of_ok {a : ExceptT ε (StateM σ) α} {f : α → ExceptT ε (StateM σ) β} {s s' : σ} {x : α}
    (h : a s = (.ok x, s')) : (a >>= f) s = f x s' := by
  rw [bind_apply, h]

theorem bind_of_error {a : ExceptT ε (StateM σ) α} {f : α → ExceptT ε (StateM σ) β} {s s' : σ}
    {e : ε} (h : a s = (.error e, s')) : (a >>= f) s = (.error e, s') := by
  rw [bind_apply, h]

/-- **A row succeeds when each action in it does.** -/
theorem bind_eq_ok {a : ExceptT ε (StateM σ) α} {f : α → ExceptT ε (StateM σ) β} {s s'' : σ}
    {y : β} :
    (a >>= f) s = (.ok y, s'') ↔ ∃ x s', a s = (.ok x, s') ∧ f x s' = (.ok y, s'') := by
  rw [bind_apply]
  rcases ha : a s with ⟨e | x, s'⟩
  · constructor
    · intro h
      cases h
    · rintro ⟨x, t, h, _⟩
      cases h
  · constructor
    · exact fun h => ⟨x, s', rfl, h⟩
    · rintro ⟨x', t, h, hf⟩
      cases h
      exact hf

/-- A step that does not touch the machine is taken on the result alone. -/
theorem bind_ofExcept_apply (a : Action α) (f : α → Except Failure β) (m : Machine) :
    (a >>= fun x => ofExcept (f x)) m = ((a m).1 >>= f, (a m).2) := by
  rw [bind_apply]
  rcases a m with ⟨e | x, m'⟩
  · rfl
  · rfl

theorem bind_pure_apply (a : Action α) (f : α → β) (m : Machine) :
    (a >>= fun x => pure (f x)) m = ((a m).1.map f, (a m).2) := by
  rw [bind_apply]
  rcases a m with ⟨e | x, m'⟩
  · rfl
  · rfl

theorem during_apply (activity : Activity) (a : Action α) (m : Machine) :
    a.during activity m = ((a m).1.mapError (Failure.within activity), (a m).2) := rfl

theorem settled_apply (a : Action α) (m : Machine) : a.settled m = (.ok (a m).1, (a m).2) := rfl

theorem look_apply (f : Machine → Except Failure α) (m : Machine) : look f m = (f m, m) := rfl

theorem change_of_ok {f : FileSystem → Except Failure FileSystem} {m : Machine} {fs : FileSystem}
    (h : f m.files = .ok fs) : change f m = (.ok (), { m with files := fs }) := by
  rw [change, h]

/-- **What each change keeps up** holds after changes in a row, and after those before the one that
fails. -/
theorem forM_change_induction {f : α → FileSystem → Except Failure FileSystem} {l : List α}
    {P : List α → FileSystem → Prop} {m : Machine} (hstart : P [] m.files)
    (hstep : ∀ {done a rest fs fs'}, l = done ++ a :: rest → P done fs → f a fs = .ok fs' →
      P (done ++ [a]) fs') :
    match (l.forM fun a => change (f a)) m with
    | (.ok _, m') => P l m'.files
    | (.error _, m') => ∃ done, done <+: l ∧ P done m'.files := by
  induction l generalizing P m with
  | nil => exact hstart
  | cons a l ih =>
    have hcons : (a :: l).forM (fun a => change (f a)) =
        change (f a) >>= fun _ => l.forM fun a => change (f a) := rfl
    rw [hcons, bind_apply, change]
    cases hchange : f a m.files with
    | error e => exact ⟨[], List.nil_prefix, hstart⟩
    | ok fs =>
      have hrest := ih (P := fun done => P (a :: done)) (m := { m with files := fs })
        (hstep rfl hstart hchange) fun heq => hstep (congrArg (a :: ·) heq)
      simp only
      generalize (l.forM fun a => change (f a)) { m with files := fs } = after at hrest
      rcases after with ⟨e | _, m'⟩
      · obtain ⟨done, hbefore, hdone⟩ := hrest
        exact ⟨a :: done, (List.prefix_cons_inj a).2 hbefore, hdone⟩
      · exact hrest

end Action
end PackageListing
