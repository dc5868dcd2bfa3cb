import Microblog.Proofs.Social.Filling
import Microblog.Proofs.Store.Failing

/-!
# How a request that writes ends

A request that writes is a chain of checks, one statement that changes the store, and things that
are done afterwards.  `Action.Ends` says how it ends: it fails and has changed nothing
(`Action.Refuses`), or it answers, and more can be said of the answer and of the state that it
leaves (`Action.Answers`).

* The checks only look, so that a request that fails at one of them has changed nothing
  (`Action.Finds.bind`).
* A statement that fails changes nothing, either (`Action.Ends.change_bind`).
* What is done afterwards has to answer, and the rule for the statement asks for that.

A failure that is told as an internal one is a failure of the store.  What has to be so for that is
the limit that `Action.Refuses` and `Action.Ends` name; `False` stands for never.
-/

set_option autoImplicit false

namespace Microblog

open Text

namespace Action

variable {α β : Type} {s : Social}

/-! ## Ends -/

/-- Done in `s`, the action answers, and the answer and the state that it leaves satisfy `P`. -/
def Answers (a : Action α) (s : Social) (P : α → Social → Prop) : Prop :=
  ∃ x, a.answer s = .ok x ∧ P x (a.after s)

/-- Done in `s`, the action fails and has changed nothing; and the failure is an internal one only
at the limit `L`. -/
def Refuses (a : Action α) (s : Social) (L : Prop) : Prop :=
  ∃ f, a.answer s = .error f ∧ a.after s = s ∧ (f.report.kind = .internal → L)

/-- Done in `s`, the action fails and has changed nothing, or it answers, and `P` holds then. -/
def Ends (a : Action α) (s : Social) (L : Prop) (P : α → Social → Prop) : Prop :=
  a.Refuses s L ∨ a.Answers s P

/-- Done in `s`, the action changes nothing, and what it answers satisfies `P`. -/
abbrev Finds (a : Action α) (s : Social) (L : Prop) (P : α → Prop) : Prop :=
  a.Ends s L fun x s' ↦ s' = s ∧ P x

variable {L : Prop} {P : β → Social → Prop}

/-! ## Sequences -/

theorem Answers.imp {a : Action β} {Q : β → Social → Prop} (h : a.Answers s Q)
    (hP : ∀ x s', Q x s' → P x s') : a.Answers s P := by
  obtain ⟨x, hx, hQ⟩ := h
  exact ⟨x, hx, hP _ _ hQ⟩

theorem Answers.bind {a : Action α} {f : α → Action β} {Q : α → Social → Prop}
    (ha : a.Answers s Q) (hf : ∀ x s', Q x s' → (f x).Answers s' P) : (a >>= f).Answers s P := by
  obtain ⟨x, hx, hQ⟩ := ha
  obtain ⟨y, hy, hP⟩ := hf x _ hQ
  refine ⟨y, ?_, ?_⟩
  · rw [answer_bind, hx]
    exact hy
  · rw [after_bind, hx]
    exact hP

theorem Answers.pure (y : β) (h : P y s) : (Pure.pure y : Action β).Answers s P := ⟨y, rfl, h⟩

theorem Refuses.bind {a : Action α} {f : α → Action β} (ha : a.Refuses s L) :
    (a >>= f).Refuses s L := by
  obtain ⟨failure, hanswer, hafter, hlimit⟩ := ha
  refine ⟨failure, ?_, ?_, hlimit⟩
  · rw [answer_bind, hanswer]
    rfl
  · rw [after_bind, hanswer]
    exact hafter

theorem Refuses.fail {f : Failure} (hf : f.report.kind ≠ .internal) :
    (Action.fail f : Action α).Refuses s L :=
  ⟨f, rfl, rfl, fun h ↦ absurd h hf⟩

/-- A check comes first: if it fails, nothing has been done, and else it is as if it were not
there. -/
theorem Finds.bind {a : Action α} {f : α → Action β} {Q : α → Prop} (ha : a.Finds s L Q)
    (hf : ∀ x, Q x → (f x).Ends s L P) : (a >>= f).Ends s L P := by
  rcases ha with hrefuses | ⟨x, hx, hafter, hQ⟩
  · exact .inl hrefuses.bind
  rcases hf x hQ with ⟨failure, hanswer, hsame, hlimit⟩ | ⟨y, hy, hP⟩
  · refine .inl ⟨failure, ?_, ?_, hlimit⟩
    · rw [answer_bind, hx, hafter]
      exact hanswer
    · rw [after_bind, hx, hafter]
      exact hsame
  · refine .inr ⟨y, ?_, ?_⟩
    · rw [answer_bind, hx, hafter]
      exact hy
    · rw [after_bind, hx, hafter]
      exact hP

/-! ## Steps -/

theorem Finds.pure (x : α) {Q : α → Prop} (h : Q x) : (Pure.pure x : Action α).Finds s L Q :=
  .inr ⟨x, rfl, rfl, h⟩

theorem Finds.orFail {f : Failure} (hf : f.report.kind ≠ .internal) (o : Option α) :
    (Action.orFail f o).Finds s L (o = some ·) := by
  cases o with
  | none => exact .inl (.fail hf)
  | some x => exact .inr ⟨x, rfl, rfl, rfl⟩

/-- A question that the store can answer. -/
theorem Finds.ask {statement : Store → Except StoreError α} {x : α} {Q : α → Prop}
    (h : statement s.store = .ok x) (hQ : Q x) : (Action.ask statement).Finds s L Q :=
  .inr ⟨x, (answer_ask_eq_ok_iff s).2 h, after_ask s _, hQ⟩

theorem Answers.ask {statement : Store → Except StoreError α} {x : α}
    (h : statement s.store = .ok x) :
    (Action.ask statement).Answers s fun y s' ↦ y = x ∧ s' = s :=
  ⟨x, (answer_ask_eq_ok_iff s).2 h, rfl, after_ask s _⟩

section Change

variable {statement : Nat → Store → Except StoreError (α × Store)}

theorem answer_change_of_error {e : StoreError} (h : statement s.now s.store = .error e) :
    (Action.change statement).answer s = .error (.store e) := by
  rw [Action.change, answer_get_bind, h]
  rfl

theorem after_change_of_error {e : StoreError} (h : statement s.now s.store = .error e) :
    (Action.change statement).after s = s := by
  rw [Action.change, after_get_bind, h]
  rfl

theorem Refuses.change {e : StoreError} (h : statement s.now s.store = .error e)
    (hlimit : L) : (Action.change statement).Refuses s L :=
  ⟨.store e, answer_change_of_error h, after_change_of_error h, fun _ ↦ hlimit⟩

theorem Answers.change {x : α} {store : Store} (h : statement s.now s.store = .ok (x, store)) :
    (Action.change statement).Answers s fun y s' ↦ y = x ∧ s' = { s with store } := by
  refine ⟨x, ?_, rfl, ?_⟩
  · rw [Action.change, answer_get_bind, h]
    rfl
  · rw [Action.change, after_get_bind, h]
    rfl

/-- One statement changes the store, and what comes then answers, unless the statement has found
nothing to do. -/
theorem Ends.change_bind {f : α → Action β}
    (herror : ∀ e, statement s.now s.store = .error e → L)
    (hok : ∀ x store, statement s.now s.store = .ok (x, store) →
      (f x).Answers { s with store } P ∨ store = s.store ∧ (f x).Refuses s L) :
    (Action.change statement >>= f).Ends s L P := by
  cases hrun : statement s.now s.store with
  | error e => exact .inl (Refuses.change hrun (herror e hrun)).bind
  | ok found =>
    obtain ⟨x, store⟩ := found
    have hchange := Answers.change hrun
    rcases hok x store hrun with hanswers | ⟨rfl, hrefuses⟩
    · refine .inr (hchange.bind ?_)
      rintro _ _ ⟨rfl, rfl⟩
      exact hanswers
    · have hfinds : (Action.change statement).Finds s L (· = x) :=
        .inr (hchange.imp fun _ _ h ↦ ⟨h.2, h.1⟩)
      refine hfinds.bind ?_
      rintro _ rfl
      exact .inl hrefuses

end Change

theorem answer_attempt (a : Action Unit) : (attempt a).answer s = .ok () := by
  show (ExceptT.tryCatch a (fun _ ↦ Pure.pure ()) s).1 = _
  simp only [ExceptT.tryCatch, ExceptT.mk, Bind.bind, StateT.bind]
  cases a s with
  | mk x s' => cases x <;> rfl

/-- Whether or not what is attempted fails, what it has done stays done. -/
theorem Answers.attempt (a : Action Unit) :
    (Action.attempt a).Answers s fun _ s' ↦ s' = a.after s :=
  ⟨(), answer_attempt a, after_attempt s a⟩

/-! ## Checks -/

section Checks

variable (h : s.store.Orderly)

include h

theorem Finds.requireActor (id : Int) :
    (Action.requireActor id).Finds s L fun _ ↦ s.store.users.has id = true := by
  obtain ⟨o, hrun, hstored⟩ := h.user?_eq_ok id
  refine Finds.bind (Finds.ask hrun rfl) fun _ ho ↦ ?_
  refine Finds.bind (Finds.orFail (by decide) _) fun _ hfound ↦ Finds.pure _ ?_
  rw [← hstored, ho, hfound]
  rfl

/-- A tweet that is found is a row of the store, as it is read. -/
theorem Finds.requireTweet (id : Int) : (Action.requireTweet id).Finds s L fun t ↦
    ∃ row, s.store.tweets.get? id = some row ∧ row.read = .ok t := by
  obtain ⟨o, hrun, -⟩ := h.tweet?_eq_ok id
  refine Finds.bind (Finds.ask hrun rfl) fun _ ho ↦ ?_
  refine (Finds.orFail (by decide) _).imp_right fun hfound ↦ hfound.imp fun t s' hs ↦ ?_
  refine ⟨hs.1, ?_⟩
  rw [Store.tweet?, during_eq_ok_iff, bind_eq_ok_iff] at hrun
  obtain ⟨-, -, hread⟩ := hrun
  exact mapM_eq_ok_some_iff.1 (hread.trans (congrArg Except.ok (ho.trans hs.2)))

end Checks

end Action

end Microblog
