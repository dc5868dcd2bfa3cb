import Microblog.Social.Basic

/-!
# What comes of an action

An action is a sequence of steps, each of which sees what the steps before it have left, and the
first one that fails ends it.  `Action.answer` and `Action.after` are the two halves of what comes
of it: how it ends, and the application afterwards.  For both there is one lemma for each kind of
step, so that no action has to be opened further than to its steps.
-/

set_option autoImplicit false

namespace Microblog

namespace Action

variable {α β : Type}

/-- How an action ends. -/
def answer (a : Action α) (s : Social) : Except Failure α := (a.run s).1

/-- The application after an action. -/
def after (a : Action α) (s : Social) : Social := (a.run s).2

/-! ## Single steps -/

section Steps

variable (s : Social)

@[simp] theorem answer_pure (x : α) : (pure x : Action α).answer s = .ok x := rfl

@[simp] theorem answer_fail (f : Failure) : (fail f : Action α).answer s = .error f := rfl

theorem answer_bind (a : Action α) (f : α → Action β) :
    (a >>= f).answer s = (a.answer s).bind fun x ↦ (f x).answer (a.after s) := by
  rw [answer, answer, after]
  change Prod.fst (ExceptT.bindCont f (a.run s).1 (a.run s).2) = _
  cases a.run s with
  | mk x s' => cases x <;> rfl

/-- An action that has an answer has one at each of its steps. -/
theorem of_answer_bind {a : Action α} {f : α → Action β} {y : β}
    (h : (a >>= f).answer s = .ok y) :
    ∃ x, a.answer s = .ok x ∧ (f x).answer (a.after s) = .ok y := by
  rw [answer_bind] at h
  cases hx : a.answer s with
  | error e => rw [hx] at h; cases h
  | ok x => rw [hx] at h; exact ⟨x, rfl, h⟩

/-- An action goes on after a step that has an answer, and stops after one that fails. -/
theorem after_bind (a : Action α) (f : α → Action β) :
    (a >>= f).after s =
      (a.answer s).toOption.elim (a.after s) fun x ↦ (f x).after (a.after s) := by
  rw [answer, after, after]
  change Prod.snd (ExceptT.bindCont f (a.run s).1 (a.run s).2) = _
  cases a.run s with
  | mk x s' => cases x <;> rfl

/-- What the rest of a sequence leaves as it is, its first step alone decides. -/
theorem part_after_bind_first {γ : Type} (part : Social → γ) {a : Action α} {f : α → Action β}
    (hf : ∀ x s, part ((f x).after s) = part s) :
    part ((a >>= f).after s) = part (a.after s) := by
  rw [after_bind]
  cases (a.answer s).toOption with
  | none => rfl
  | some x => exact hf x _

/-- What each step leaves as it is, a sequence of steps leaves as it is. -/
theorem part_after_bind {γ : Type} (part : Social → γ) {a : Action α} {f : α → Action β}
    (ha : ∀ s, part (a.after s) = part s) (hf : ∀ x s, part ((f x).after s) = part s) :
    part ((a >>= f).after s) = part s :=
  (part_after_bind_first s part hf).trans (ha s)

theorem answer_get_bind (f : Social → Action α) : (get >>= f).answer s = (f s).answer s := rfl

theorem after_get_bind (f : Social → Action α) : (get >>= f).after s = (f s).after s := rfl

@[simp] theorem after_ask (statement : Store → Except StoreError α) :
    (ask statement).after s = s := by
  rw [ask, after_get_bind]
  cases statement s.store <;> rfl

theorem answer_ask_eq_ok_iff {statement : Store → Except StoreError α} {x : α} :
    (ask statement).answer s = .ok x ↔ statement s.store = .ok x := by
  rw [ask, answer_get_bind]
  cases statement s.store with
  | ok a => simp
  | error e => simp

/-- A statement that fails changes nothing, and one that succeeds leaves the store that it gives. -/
theorem change_error_or_ok (statement : Nat → Store → Except StoreError (α × Store)) :
    (∃ e, (change statement).answer s = .error e ∧ (change statement).after s = s) ∨
      ∃ x store, statement s.now s.store = .ok (x, store) ∧
        (change statement).answer s = .ok x ∧ (change statement).after s = { s with store } := by
  rw [change, answer_get_bind, after_get_bind]
  cases hrun : statement s.now s.store with
  | error e => exact .inl ⟨_, rfl, rfl⟩
  | ok found => exact .inr ⟨found.1, found.2, rfl, rfl, rfl⟩

/-- Going on after a failure loses nothing of what was done before it. -/
theorem after_attempt (a : Action Unit) : (attempt a).after s = a.after s := by
  show (ExceptT.tryCatch a (fun _ ↦ Pure.pure ()) s).2 = (a s).2
  simp only [ExceptT.tryCatch, ExceptT.mk, Bind.bind, StateT.bind]
  cases a s with
  | mk x s' => cases x <;> rfl

@[simp] theorem after_orFail (f : Failure) (o : Option α) : (orFail f o).after s = s := by
  cases o <;> rfl

theorem answer_orFail_eq_ok_iff {f : Failure} {o : Option α} {x : α} :
    (orFail f o).answer s = .ok x ↔ o = some x := by
  cases o <;> simp [orFail]

end Steps

end Action

end Microblog
