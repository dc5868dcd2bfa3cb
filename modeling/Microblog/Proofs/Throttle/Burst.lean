import Microblog.Proofs.Throttle.Bucket
import Microblog.Proofs.Throttle.Run

/-!
# Bursts, and waiting for a token

A client that is not known yet may make a burst of requests at once and no more, and waiting for one
token is enough to be let in again (`Throttle.burst_and_refill`).

* `Throttle.Left` says how many tokens are left to a client that makes all its requests at one time.
  Each of them takes one, until there is none.
* `Throttle.Lately` bounds how far ahead a bucket is by the last request that was let in: that one
  has put it ahead, and those that were refused have not.
-/

set_option autoImplicit false

namespace Microblog

namespace Throttle

variable {settings : ThrottleSettings} {client c : String} {t : Throttle} {now k : Nat}

/-! ## Requests at one time -/

/-- To a client that makes all its requests at the time `now`, `k` tokens are left. -/
structure Left (settings : ThrottleSettings) (client : String) (now k : Nat) (t : Throttle) :
    Prop where
  settings_eq : t.settings = settings
  born : (t.bucketOf now client).born = now
  lastSeen : (t.bucketOf now client).lastSeen = now
  fullAt : (t.bucketOf now client).fullAt + k * settings.tokenTime =
    settings.tolerance + settings.tokenTime

namespace Left

/-- A client that is not known has a burst of tokens. -/
theorem of_unknown (hnew : t.clients.get? client = none) (hpos : 0 < t.settings.tokenTime) :
    Left t.settings client now (max t.settings.burst 1) t := by
  have hbucket : t.bucketOf now client = freshBucket t.settings now := bucketOf_of_unknown hnew
  refine ⟨rfl, by rw [hbucket]; rfl, by rw [hbucket]; rfl, ?_⟩
  rw [hbucket, freshBucket, tolerance_eq hpos, Nat.mul_comm, Nat.add_comm]

/-- A client that was just seen is not forgotten. -/
theorem sweep (h : Left settings client now k t) : Left settings client now k (t.sweep now).2 := by
  have hbucket : (t.sweep now).2.bucketOf now client = t.bucketOf now client := by
    rw [bucketOf, bucketOf, get?_sweep]
    cases hget : t.clients.get? client with
    | none => rfl
    | some b =>
      have hseen := h.lastSeen
      rw [bucketOf_of_known hget] at hseen
      have hactive : isActive t.settings now b = true := by
        simp [isActive_iff, hseen]
      rw [Option.filter_some, if_pos hactive]
      rfl
  exact ⟨h.settings_eq, hbucket ▸ h.born, hbucket ▸ h.lastSeen, hbucket ▸ h.fullAt⟩

theorem allow_other (h : Left settings client now k t) (hc : c ≠ client) :
    Left settings client now k (t.allow now c).2 := by
  have hbucket : (t.allow now c).2.bucketOf now client = t.bucketOf now client :=
    bucketOf_allow_of_ne hc
  exact ⟨h.settings_eq, hbucket ▸ h.born, hbucket ▸ h.lastSeen, hbucket ▸ h.fullAt⟩

/-- A request is let in if a token is left. -/
theorem take_eq_true (h : Left settings client now k t) (hpos : 0 < settings.tokenTime) :
    (take settings now (t.bucketOf now client)).1 = true ↔ 0 < k := by
  have hfull := h.fullAt
  rw [take_eq_true_iff, h.born, Nat.sub_self, Nat.zero_add]
  cases k with
  | zero => exact iff_of_false (by omega) (Nat.lt_irrefl 0)
  | succ k =>
    rw [Nat.succ_mul] at hfull
    exact iff_of_true (by omega) k.succ_pos

/-- After a request, the tokens that are left are read off the bucket. -/
theorem of_take {k' : Nat} (h : Left settings client now k t)
    (hfull : (take settings now (t.bucketOf now client)).2.fullAt + k' * settings.tokenTime =
      settings.tolerance + settings.tokenTime) :
    Left settings client now k' (t.allow now client).2 := by
  have hbucket : (t.allow now client).2.bucketOf now client =
      (take settings now (t.bucketOf now client)).2 := by
    rw [bucketOf_allow_self, h.settings_eq]
  refine ⟨h.settings_eq, ?_, ?_, ?_⟩
  · rw [hbucket, born_take, h.born]
  · rw [hbucket, lastSeen_take]
  · rw [hbucket, hfull]

/-- A request is let in if a token is left, and takes it. -/
theorem allow_succ (h : Left settings client now (k + 1) t) (hpos : 0 < settings.tokenTime) :
    (t.allow now client).1 = true ∧ Left settings client now k (t.allow now client).2 := by
  have hadmitted := (h.take_eq_true hpos).2 k.succ_pos
  have hafter := fullAt_take_of_admitted hadmitted
  have hfull := h.fullAt
  refine ⟨by rw [allow_eq, h.settings_eq, hadmitted], h.of_take ?_⟩
  rw [h.born, Nat.sub_self, Nat.max_zero] at hafter
  rw [Nat.succ_mul] at hfull
  omega

/-- Without a token that is left, a request is refused and changes nothing. -/
theorem allow_zero (h : Left settings client now 0 t) (hpos : 0 < settings.tokenTime) :
    (t.allow now client).1 = false ∧ Left settings client now 0 (t.allow now client).2 := by
  have hrefused : (take settings now (t.bucketOf now client)).1 = false :=
    Bool.eq_false_of_not_eq_true fun hadmitted ↦
      absurd ((h.take_eq_true hpos).1 hadmitted) (Nat.lt_irrefl 0)
  refine ⟨by rw [allow_eq, h.settings_eq, hrefused], h.of_take ?_⟩
  rw [fullAt_take_of_refused hrefused, h.fullAt]

/-- An event that is no request of the client takes none, if no time passes. -/
theorem step {u : Upkeep} {e : Upkeep.Event} (h : Left settings client u.now k u.throttle)
    (he : e.isRequestOf client = false) (hnow : (u.step e).now = u.now) :
    Left settings client u.now k (u.step e).throttle := by
  by_cases hc : ∃ c, e = .allow c
  · obtain ⟨c, rfl⟩ := hc
    exact h.allow_other (of_decide_eq_false he)
  · -- time that has passed does not come back, so it is enough to look at the time at the end
    have hkeeps := Upkeep.step_keeps (u := u)
      (P := fun t now ↦ u.now ≤ now ∧ (now = u.now → Left settings client u.now k t))
      (fun h ↦ ⟨h.1, fun hsame ↦ hsame ▸ (h.2 hsame).sweep⟩)
      (fun h ns ↦ ⟨by omega, fun hsame ↦ h.2 (by omega)⟩) (not_exists.1 hc)
      ⟨Nat.le_refl _, fun _ ↦ h⟩
    exact hkeeps.2 hnow

/-- The tokens that are left are given to the first requests, and none to the others. -/
theorem answers_eq {u : Upkeep} (h : Left settings client u.now k u.throttle)
    (hpos : 0 < settings.tokenTime) {es : List Upkeep.Event} (hnow : (u.run es).now = u.now) :
    u.answers client es = List.replicate (min (Upkeep.requests client es) k) true ++
      List.replicate (Upkeep.requests client es - k) false := by
  induction es generalizing u k with
  | nil =>
    rw [Upkeep.requests, List.countP_nil, Nat.zero_min, Nat.zero_sub]
    rfl
  | cons e es ih =>
    have hfirst : (u.step e).now = u.now := by
      have hlater : (u.step e).now ≤ u.now := hnow ▸ (u.step e).now_le_run es
      exact Nat.le_antisymm hlater (u.now_le_step e)
    have hrest : ((u.step e).run es).now = (u.step e).now := hnow.trans hfirst.symm
    rw [Upkeep.answers]
    cases he : e.isRequestOf client with
    | false =>
      have hstep := h.step he hfirst
      rw [← hfirst] at hstep
      rw [Upkeep.answersAt_of_not_request he, Upkeep.requests_cons_of_not_request he,
        List.nil_append]
      exact ih hstep hrest
    | true =>
      obtain rfl := Upkeep.Event.eq_allow he
      rw [Upkeep.answersAt, if_pos rfl, Upkeep.requests_cons_of_request he]
      cases k with
      | zero =>
        obtain ⟨hrefused, hnone⟩ := h.allow_zero hpos
        rw [hrefused, ih hnone hrest, Nat.min_zero, Nat.min_zero, Nat.sub_zero, Nat.sub_zero,
          List.replicate_succ]
        rfl
      | succ k =>
        obtain ⟨hadmitted, hleft⟩ := h.allow_succ hpos
        rw [hadmitted, ih hleft hrest, Nat.succ_min_succ, Nat.succ_sub_succ, List.replicate_succ]
        rfl

end Left

/-! ## Waiting -/

/-- The bucket of a client whose requests at `times` were let in belongs to the past, and is ahead
of the last of them by its size and one token at most. -/
structure Lately (settings : ThrottleSettings) (client : String) (times : List Nat) (t : Throttle)
    (now : Nat) : Prop where
  settings_eq : t.settings = settings
  known : ∀ b, t.clients.get? client = some b → b.born ≤ now ∧ ∃ a ∈ times.getLast?,
    b.born + b.fullAt ≤ a + settings.tolerance + settings.tokenTime

namespace Lately

variable {times : List Nat}

theorem of_unknown (hnew : t.clients.get? client = none) :
    Lately t.settings client times t now :=
  ⟨rfl, fun _ hb ↦ nomatch hnew.symm.trans hb⟩

theorem wait (h : Lately settings client times t now) (ns : Nat) :
    Lately settings client times t (now + ns) := by
  refine ⟨h.settings_eq, fun b hb ↦ ?_⟩
  obtain ⟨hborn, hlast⟩ := h.known b hb
  exact ⟨hborn.trans (Nat.le_add_right _ _), hlast⟩

theorem sweep (h : Lately settings client times t now) :
    Lately settings client times (t.sweep now).2 now := by
  refine ⟨h.settings_eq, fun b hb ↦ h.known b ?_⟩
  rw [get?_sweep, Option.filter_eq_some_iff] at hb
  exact hb.1

theorem allow_other (h : Lately settings client times t now) (hc : c ≠ client) :
    Lately settings client times (t.allow now c).2 now := by
  refine ⟨h.settings_eq, fun b hb ↦ h.known b ?_⟩
  rwa [get?_allow, if_neg (Ne.symm hc)] at hb

/-- The next request is let in once a token could come back since the last one that was. -/
theorem allow_eq_true (h : Lately settings client times t now)
    (hlast : ∀ a ∈ times.getLast?, a + settings.tokenTime ≤ now) :
    (t.allow now client).1 = true := by
  cases hb : t.clients.get? client with
  | none => exact allow_of_unknown hb
  | some b =>
    obtain ⟨hborn, a, ha, hahead⟩ := h.known b hb
    have hwaited := hlast a ha
    rw [allow_eq, take_eq_true_iff, h.settings_eq, bucketOf_of_known hb]
    omega

/-- A request becomes the last one if it is let in, and else it changes nothing. -/
theorem allow (h : Lately settings client times t now) :
    Lately settings client (times ++ if (t.allow now client).1 = true then [now] else [])
      (t.allow now client).2 now := by
  refine ⟨h.settings_eq, fun b' hb' ↦ ?_⟩
  have hafter : b' = (take settings now (t.bucketOf now client)).2 := by
    rw [get?_allow, if_pos rfl, h.settings_eq] at hb'
    exact (Option.some.inj hb').symm
  have hborn : (t.bucketOf now client).born ≤ now := by
    cases hb : t.clients.get? client with
    | none => exact (congrArg Bucket.born (bucketOf_of_unknown hb)).le
    | some b => exact (bucketOf_of_known hb).symm ▸ (h.known b hb).1
  rw [hafter, born_take]
  refine ⟨hborn, ?_⟩
  cases hallowed : (t.allow now client).1 with
  | true =>
    rw [allow_eq, h.settings_eq] at hallowed
    have hroom := take_eq_true_iff.1 hallowed
    have hfull := fullAt_take_of_admitted hallowed
    rw [if_pos rfl, List.getLast?_concat]
    exact ⟨now, rfl, by omega⟩
  | false =>
    cases hb : t.clients.get? client with
    | none => exact absurd (hallowed.symm.trans (allow_of_unknown hb)) Bool.false_ne_true
    | some b =>
      rw [allow_eq, h.settings_eq] at hallowed
      rw [if_neg Bool.false_ne_true, List.append_nil, fullAt_take_of_refused hallowed,
        bucketOf_of_known hb]
      exact (h.known b hb).2

end Lately

/-! ## The two together -/

/-- **A burst is exact, and waiting is enough.**  Of the requests that a client makes at one time
when it is not known, the first of a burst are let in and the others refused, if no more tokens come
back in a second than it has nanoseconds.  And whatever happens from then on, a request is let in if
it comes at least the time of one token after the last one of the client that was. -/
theorem burst_and_refill {u : Upkeep} {client : String}
    (hnew : u.throttle.clients.get? client = none) (es : List Upkeep.Event) :
    (u.throttle.settings.perSecond ≤ 1000000000 → (u.run es).now = u.now →
      u.answers client es =
        List.replicate (min (Upkeep.requests client es) (max u.throttle.settings.burst 1)) true ++
        List.replicate (Upkeep.requests client es - max u.throttle.settings.burst 1) false) ∧
    ∀ a ∈ (u.admitted client es).getLast?,
      a + 1000000000 / max u.throttle.settings.perSecond 1 ≤ (u.run es).now →
      ((u.run es).throttle.allow (u.run es).now client).1 = true := by
  refine ⟨fun hrate hnow ↦ ?_, fun a ha hwaited ↦ ?_⟩
  · have hpos : 0 < u.throttle.settings.tokenTime :=
      Nat.div_pos (max_le hrate (by decide)) (Nat.lt_of_lt_of_le Nat.zero_lt_one (le_max_right _ _))
    exact (Left.of_unknown hnew hpos).answers_eq hpos hnow
  · have hstart : Lately u.throttle.settings client [] u.throttle u.now := .of_unknown hnew
    have hlately := Upkeep.run_keeps_admitted (P := Lately u.throttle.settings client)
      (fun h ↦ h.sweep) (fun h ns ↦ h.wait ns) (fun hc h ↦ h.allow_other hc) (fun h ↦ h.allow)
      hstart es
    refine hlately.allow_eq_true fun a' ha' ↦ ?_
    obtain rfl := Option.some.inj (Eq.trans (Option.mem_def.1 ha).symm ha')
    exact hwaited

/-- A throttle that lets two requests in at once and gives a token back every 50 milliseconds. -/
def twoAtOnce : Upkeep := .start { perSecond := 20, burst := 2 } none

/-- Three requests at once. -/
def rush : List Upkeep.Event := List.replicate 3 (.allow "client")

/-- The third one is refused, and 50 milliseconds later one is let in again. -/
theorem burst_and_refill_rush :
    twoAtOnce.throttle.clients.get? "client" = none ∧
    twoAtOnce.answers "client" rush = [true, true, false] ∧
    ((twoAtOnce.run (rush ++ [.advance 50000000])).throttle.allow 50000000 "client").1 = true := by
  have hnew : twoAtOnce.throttle.clients.get? "client" = none := rfl
  have hwaited : 0 + 1000000000 / max twoAtOnce.throttle.settings.perSecond 1 ≤
      (twoAtOnce.run (rush ++ [.advance 50000000])).now := by decide
  have hagain := (burst_and_refill hnew (rush ++ [Upkeep.Event.advance 50000000])).2 0 rfl hwaited
  exact ⟨hnew, (burst_and_refill hnew rush).1 (by decide) rfl, hagain⟩

end Throttle

end Microblog
