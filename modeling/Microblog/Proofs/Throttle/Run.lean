import Microblog.Proofs.Keyed
import Microblog.Upkeep

/-!
# Runs of a throttle

A throttle is used by clients, swept by whoever likes and, if there is a worker, by the worker
whenever a round is due, while time passes.  `Upkeep.Event` lists what may happen.  Of a run one
client sees which of its requests were let in (`Upkeep.answers`) and when (`Upkeep.admitted`).

Of all that happens, a throttle notices three things: a request, a sweep and that time passes.
`Upkeep.step_keeps` says so, so that an invariant of throttles needs no more than these three cases,
with or without a worker.  `Upkeep.run_keeps_admitted` takes an invariant through a run that speaks
of the requests of a client that were let in.
-/

set_option autoImplicit false

namespace Microblog

namespace Upkeep

/-- What may happen to a throttle and the cache beside it. -/
inductive Event where
  /-- A client makes a request. -/
  | allow (client : String)
  | sweep
  | put (key : String) (value : Json) (lifetime : Nat)
  | purge
  /-- Time passes, and the worker does what becomes due. -/
  | advance (ns : Nat)
  /-- The worker is told to stop. -/
  | shutdown

/-- The throttle and the cache after an event. -/
def step (u : Upkeep) : Event → Upkeep
  | .allow client => { u with throttle := (u.throttle.allow u.now client).2 }
  | .sweep => { u with throttle := (u.throttle.sweep u.now).2 }
  | .put key value lifetime => { u with cache := u.cache.put u.now key value lifetime }
  | .purge => { u with cache := (u.cache.purge u.now).2 }
  | .advance ns => u.advance ns
  | .shutdown => u.shutdown.2

/-- The throttle and the cache after some events. -/
def run (u : Upkeep) (es : List Event) : Upkeep := es.foldl step u

/-- Whether an event is a request of `client`. -/
def Event.isRequestOf (client : String) : Event → Bool
  | .allow c => c = client
  | _ => false

/-- The number of requests of `client` among some events. -/
def requests (client : String) (es : List Event) : Nat := es.countP (·.isRequestOf client)

/-- Whether a request of `client` is let in, if the event is one. -/
def answersAt (client : String) (u : Upkeep) : Event → List Bool
  | .allow c => if c = client then [(u.throttle.allow u.now c).1] else []
  | _ => []

/-- Which of the requests of `client` are let in during some events, in order. -/
def answers (client : String) : Upkeep → List Event → List Bool
  | _, [] => []
  | u, e :: es => u.answersAt client e ++ answers client (u.step e) es

/-- The time at which a request of `client` is let in, if the event is one that is. -/
def admittedAt (client : String) (u : Upkeep) : Event → List Nat
  | .allow c => if c = client ∧ (u.throttle.allow u.now c).1 = true then [u.now] else []
  | _ => []

/-- The times at which requests of `client` are let in during some events, in order. -/
def admitted (client : String) : Upkeep → List Event → List Nat
  | _, [] => []
  | u, e :: es => u.admittedAt client e ++ admitted client (u.step e) es

theorem admittedAt_of_ne (client : String) (u : Upkeep) {e : Event}
    (he : ∀ c, e ≠ .allow c) : u.admittedAt client e = [] := by
  cases e with
  | allow c => exact absurd rfl (he c)
  | sweep | put | purge | advance | shutdown => rfl

theorem Event.eq_allow {client : String} {e : Event} (he : e.isRequestOf client = true) :
    e = .allow client := by
  cases e with
  | allow c => exact congrArg Event.allow (of_decide_eq_true he)
  | sweep | put | purge | advance | shutdown => cases he

theorem answersAt_of_not_request {client : String} {e : Event}
    (he : e.isRequestOf client = false) (u : Upkeep) : u.answersAt client e = [] := by
  cases e with
  | allow c => exact if_neg (of_decide_eq_false he)
  | sweep | put | purge | advance | shutdown => rfl

theorem requests_cons_of_request {client : String} {e : Event}
    (he : e.isRequestOf client = true) (es : List Event) :
    requests client (e :: es) = requests client es + 1 :=
  List.countP_cons_of_pos he

theorem requests_cons_of_not_request {client : String} {e : Event}
    (he : e.isRequestOf client = false) (es : List Event) :
    requests client (e :: es) = requests client es :=
  List.countP_cons_of_neg (Bool.not_eq_true _ ▸ he)

/-! ## What a throttle notices -/

section Keeps

variable {P : Throttle → Nat → Prop} {u : Upkeep}
  (sweep : ∀ {t now}, P t now → P (t.sweep now).2 now)
  (wait : ∀ {t now}, P t now → ∀ ns, P t (now + ns))

include sweep

/-- The worker sweeps, or leaves the throttle alone. -/
theorem work_keeps (h : P u.throttle u.now) : P u.work.throttle u.work.now := by
  rw [work]
  split
  · split
    · exact sweep h
    · exact h
  · exact h

include wait

/-- What sweeps and the passing of time keep, every event keeps that is no request. -/
theorem step_keeps {e : Event} (he : ∀ client, e ≠ .allow client) (h : P u.throttle u.now) :
    P (u.step e).throttle (u.step e).now := by
  cases e with
  | allow client => exact absurd rfl (he client)
  | sweep => exact sweep h
  | put | purge | shutdown => exact h
  | advance ns =>
    have hwait : P { u with now := u.now + ns }.throttle { u with now := u.now + ns }.now :=
      wait h ns
    exact work_keeps sweep hwait

end Keeps

/-! ## Time -/

theorem now_le_step (u : Upkeep) (e : Event) : u.now ≤ (u.step e).now := by
  by_cases he : ∃ client, e = .allow client
  · obtain ⟨client, rfl⟩ := he
    exact Nat.le_refl _
  · exact step_keeps (P := fun _ now ↦ u.now ≤ now) (fun h ↦ h)
      (fun h ns ↦ h.trans (Nat.le_add_right _ ns)) (not_exists.1 he) (Nat.le_refl _)

theorem now_le_run (u : Upkeep) (es : List Event) : u.now ≤ (u.run es).now := by
  induction es generalizing u with
  | nil => exact Nat.le_refl _
  | cons e es ih => exact (u.now_le_step e).trans (ih (u.step e))

/-! ## The requests that were let in -/

section History

variable {client : String} {P : List Nat → Throttle → Nat → Prop} {times : List Nat} {u : Upkeep}
  (sweep : ∀ {times t now}, P times t now → P times (t.sweep now).2 now)
  (wait : ∀ {times t now}, P times t now → ∀ ns, P times t (now + ns))
  (other : ∀ {times t now c}, c ≠ client → P times t now → P times (t.allow now c).2 now)
  (allow : ∀ {times t now}, P times t now →
    P (times ++ if (t.allow now client).1 = true then [now] else []) (t.allow now client).2 now)

include sweep wait other allow

/-- What speaks of the times at which requests of a client were let in, and is kept by requests, by
sweeps and by the passing of time, every event keeps. -/
theorem step_keeps_admitted (h : P times u.throttle u.now) (e : Event) :
    P (times ++ u.admittedAt client e) (u.step e).throttle (u.step e).now := by
  by_cases he : ∃ c, e = .allow c
  · obtain ⟨c, rfl⟩ := he
    by_cases hc : c = client
    · subst hc
      simp only [admittedAt, true_and]
      exact allow h
    · rw [admittedAt, if_neg fun hboth ↦ hc hboth.1, List.append_nil]
      exact other hc h
  · rw [admittedAt_of_ne client u (not_exists.1 he), List.append_nil]
    exact step_keeps sweep wait (not_exists.1 he) h

/-- So does a run, by induction on its events: the history grows at its end. -/
theorem run_keeps_admitted (h : P times u.throttle u.now) (es : List Event) :
    P (times ++ u.admitted client es) (u.run es).throttle (u.run es).now := by
  induction es generalizing u times with
  | nil =>
    rw [admitted, List.append_nil]
    exact h
  | cons e es ih =>
    rw [admitted, ← List.append_assoc]
    exact ih (step_keeps_admitted sweep wait other allow h e)

end History

end Upkeep

end Microblog
