import Mathlib.Data.List.Infix
import Microblog.Proofs.Throttle.Bucket
import Microblog.Proofs.Throttle.Run

/-!
# How many requests a throttle lets in

A bucket holds a burst and gets one token back in every `tokenTime`.  So of the requests of a client
that are let in, `n` in a row take at least the time in which `n - 1` tokens come back, up to a
burst.  `Throttle.admission_bound` says that this is so in every run, although a client that was
idle is forgotten and begins with a new bucket.

* `Throttle.Paid` carries the history through a run: every request that was let in has pushed the
  time at which the bucket is full by one token, so that this time counts them.
* That time is never further ahead of the last request than a full bucket and one token
  (`Throttle.Paid.ahead`).  A client is forgotten only after it has been idle for longer than that
  takes, and then the new bucket is no better than the old one would be.
-/

set_option autoImplicit false

namespace Microblog

namespace Throttle

/-! ## What the history says of the bucket -/

variable {tokenTime tolerance limit limit' a : Nat} {times calls : List Nat}

/-- The requests at these times, any last part of them, took one token each from a bucket that will
be full at `limit` at the earliest. -/
def PaidBy (tokenTime : Nat) (times : List Nat) (limit : Nat) : Prop :=
  ∀ first rest, first :: rest <:+ times → first + (rest.length + 1) * tokenTime ≤ limit

theorem PaidBy.mono (h : PaidBy tokenTime times limit) (hle : limit ≤ limit') :
    PaidBy tokenTime times limit' := by
  intro first rest hsuffix
  exact (h first rest hsuffix).trans hle

/-- One request more costs one token more, whether the bucket was full before or not. -/
theorem PaidBy.concat (h : PaidBy tokenTime times limit) (a : Nat) :
    PaidBy tokenTime (times ++ [a]) (max limit a + tokenTime) := by
  intro first rest hsuffix
  rcases List.suffix_concat_iff.1 hsuffix with hnil | ⟨before, hcalls, hbefore⟩
  · cases hnil
  · cases before with
    | nil =>
      obtain ⟨rfl, rfl⟩ := List.cons.inj hcalls
      rw [List.length_nil, Nat.zero_add, Nat.one_mul]
      omega
    | cons b before =>
      rw [List.cons_append] at hcalls
      obtain ⟨rfl, rfl⟩ := List.cons.inj hcalls
      have hpaid := h first before hbefore
      rw [List.length_append, List.length_singleton, Nat.succ_mul]
      omega

/-- Requests in a row take as long as their tokens but the first, less the tolerance. -/
def Spaced (tokenTime tolerance : Nat) (times : List Nat) : Prop :=
  ∀ calls, calls <:+: times → ∀ h : calls ≠ [],
    calls.head h + (calls.length - 1) * tokenTime ≤ calls.getLast h + tolerance

/-- A request that is let in is as far from those before it as these have paid for. -/
theorem Spaced.concat (h : Spaced tokenTime tolerance times)
    (hpaid : PaidBy tokenTime times limit) (ha : limit ≤ a + tolerance) :
    Spaced tokenTime tolerance (times ++ [a]) := by
  intro calls hcalls hne
  rcases List.infix_concat_iff.1 hcalls with hsuffix | hinfix
  · rcases List.suffix_concat_iff.1 hsuffix with hnil | ⟨before, rfl, hbefore⟩
    · exact absurd hnil hne
    · cases before with
      | nil => simp
      | cons first before =>
        have hfirst := hpaid first before hbefore
        simp only [List.cons_append, List.head_cons, List.length_cons, List.length_append,
          List.length_nil, Nat.zero_add, Nat.add_sub_cancel]
        rw [show (first :: (before ++ [a])).getLast (by simp) = a by simp]
        omega
  · exact h calls hinfix hne

/-! ## One client through a run -/

/-- What is true of a client at the time `now`, when its requests at `times` were let in. -/
structure Paid (settings : ThrottleSettings) (client : String) (times : List Nat) (t : Throttle)
    (now : Nat) : Prop where
  settings_eq : t.settings = settings
  past : ∀ a ∈ times, a ≤ now
  ordered : times.Pairwise (· ≤ ·)
  spaced : Spaced settings.tokenTime settings.tolerance times
  /-- The bucket has given the tokens, and belongs to the past. -/
  known : ∀ b, t.clients.get? client = some b → b.born ≤ b.lastSeen ∧ b.lastSeen ≤ now ∧
    PaidBy settings.tokenTime times (b.born + b.fullAt)
  /-- The bucket is ahead of the last request by its size and one token at most. -/
  ahead : ∀ b, t.clients.get? client = some b →
    b.born + b.fullAt ≤ b.lastSeen + settings.tolerance + settings.tokenTime
  /-- A client without a bucket is no worse off than it would be with a new one. -/
  unknown : t.clients.get? client = none →
    PaidBy settings.tokenTime times (now + settings.tokenTime)

namespace Paid

variable {settings : ThrottleSettings} {client c : String} {t : Throttle} {now : Nat}

theorem new (settings : ThrottleSettings) (client : String) (now : Nat) :
    Paid settings client [] (.new settings) now where
  settings_eq := rfl
  past _ ha := absurd ha List.not_mem_nil
  ordered := List.Pairwise.nil
  spaced _ hcalls hne := absurd (List.infix_nil.1 hcalls) hne
  known _ hb := nomatch hb
  ahead _ hb := nomatch hb
  unknown _ _ _ hsuffix := nomatch List.suffix_nil.1 hsuffix

theorem wait (h : Paid settings client times t now) (ns : Nat) :
    Paid settings client times t (now + ns) where
  settings_eq := h.settings_eq
  past a ha := (h.past a ha).trans (Nat.le_add_right _ _)
  ordered := h.ordered
  spaced := h.spaced
  known b hb := by
    obtain ⟨hborn, hseen, hpaid⟩ := h.known b hb
    exact ⟨hborn, hseen.trans (Nat.le_add_right _ _), hpaid⟩
  ahead := h.ahead
  unknown hnone := (h.unknown hnone).mono (by omega)

/-- A client is forgotten only when its bucket would have been full again. -/
theorem sweep (hidle : settings.tolerance ≤ settings.idleTimeout)
    (h : Paid settings client times t now) : Paid settings client times (t.sweep now).2 now := by
  have hsome : ∀ {b}, (t.sweep now).2.clients.get? client = some b →
      t.clients.get? client = some b := by
    intro b hb
    rw [get?_sweep, Option.filter_eq_some_iff] at hb
    exact hb.1
  refine ⟨h.settings_eq, h.past, h.ordered, h.spaced, fun b hb ↦ h.known b (hsome hb),
    fun b hb ↦ h.ahead b (hsome hb), fun hnone ↦ ?_⟩
  cases hb : t.clients.get? client with
  | none => exact h.unknown hb
  | some b =>
    have hlate : settings.idleTimeout < now - b.lastSeen := by
      rw [get?_sweep, hb, h.settings_eq, Option.filter_eq_none_iff] at hnone
      exact isActive_eq_false_iff.1 (Bool.eq_false_of_not_eq_true (hnone b rfl))
    have hahead := h.ahead b hb
    exact (h.known b hb).2.2.mono (by omega)

/-- The bucket that a request finds, be it an old or a new one. -/
theorem bucketOf (h : Paid settings client times t now) :
    (t.bucketOf now client).born ≤ now ∧
      PaidBy settings.tokenTime times
        ((t.bucketOf now client).born + (t.bucketOf now client).fullAt) ∧
      (t.bucketOf now client).born + (t.bucketOf now client).fullAt ≤
        now + settings.tolerance + settings.tokenTime := by
  cases hb : t.clients.get? client with
  | none =>
    rw [bucketOf_of_unknown hb, freshBucket, h.settings_eq]
    refine ⟨Nat.le_refl _, h.unknown hb, ?_⟩
    exact Nat.add_le_add_right (Nat.le_add_right _ _) _
  | some b =>
    obtain ⟨hborn, hseen, hpaid⟩ := h.known b hb
    have hahead := h.ahead b hb
    rw [bucketOf_of_known hb]
    exact ⟨hborn.trans hseen, hpaid, by omega⟩

/-- A request of another client changes nothing. -/
theorem allow_other (h : Paid settings client times t now) (hc : c ≠ client) :
    Paid settings client times (t.allow now c).2 now := by
  have hget : (t.allow now c).2.clients.get? client = t.clients.get? client := by
    rw [get?_allow, if_neg (Ne.symm hc)]
  exact ⟨h.settings_eq, h.past, h.ordered, h.spaced, hget ▸ h.known, hget ▸ h.ahead,
    hget ▸ h.unknown⟩

/-- A request is counted if it is let in, and else it is only seen. -/
theorem allow (h : Paid settings client times t now) :
    Paid settings client (times ++ if (t.allow now client).1 = true then [now] else [])
      (t.allow now client).2 now := by
  have hget : (t.allow now client).2.clients.get? client =
      some (take settings now (t.bucketOf now client)).2 := by
    rw [get?_allow, if_pos rfl, h.settings_eq]
  have hanswer : (t.allow now client).1 = (take settings now (t.bucketOf now client)).1 := by
    rw [allow_eq, h.settings_eq]
  obtain ⟨hborn, hpaid, hahead⟩ := h.bucketOf
  rw [hanswer]
  cases hallowed : (take settings now (t.bucketOf now client)).1 with
  | false =>
    have hfull := fullAt_take_of_refused hallowed
    rw [if_neg Bool.false_ne_true, List.append_nil]
    refine ⟨h.settings_eq, h.past, h.ordered, h.spaced, fun b hb ↦ ?_, fun b hb ↦ ?_,
      fun hnone ↦ ?_⟩
    · obtain rfl := Option.some.inj (hget.symm.trans hb)
      rw [lastSeen_take, born_take, hfull]
      exact ⟨hborn, Nat.le_refl _, hpaid⟩
    · obtain rfl := Option.some.inj (hget.symm.trans hb)
      rw [lastSeen_take, born_take, hfull]
      exact hahead
    · exact nomatch hget.symm.trans hnone
  | true =>
    have hroom := take_eq_true_iff.1 hallowed
    have hfull := fullAt_take_of_admitted hallowed
    have hlimit : (t.bucketOf now client).born +
          (take settings now (t.bucketOf now client)).2.fullAt =
        max ((t.bucketOf now client).born + (t.bucketOf now client).fullAt) now +
          settings.tokenTime := by
      rw [hfull]
      omega
    rw [if_pos rfl]
    refine ⟨h.settings_eq, fun a ha ↦ ?_, ?_, h.spaced.concat hpaid (by omega), fun b hb ↦ ?_,
      fun b hb ↦ ?_, fun hnone ↦ ?_⟩
    · rcases List.mem_append.1 ha with ha | ha
      · exact h.past a ha
      · exact Nat.le_of_eq (List.mem_singleton.1 ha)
    · refine List.pairwise_append.2 ⟨h.ordered, List.pairwise_singleton _ _, fun a ha b hb ↦ ?_⟩
      rw [List.mem_singleton.1 hb]
      exact h.past a ha
    · obtain rfl := Option.some.inj (hget.symm.trans hb)
      rw [lastSeen_take, born_take, hlimit]
      exact ⟨hborn, Nat.le_refl _, hpaid.concat now⟩
    · obtain rfl := Option.some.inj (hget.symm.trans hb)
      rw [lastSeen_take, born_take, hlimit]
      omega
    · exact nomatch hget.symm.trans hnone

/-- What a run does. -/
theorem run {u : Upkeep} (hidle : settings.tolerance ≤ settings.idleTimeout)
    (h : Paid settings client times u.throttle u.now) (es : List Upkeep.Event) :
    ∃ t now, Paid settings client (times ++ u.admitted client es) t now :=
  ⟨_, _, Upkeep.run_keeps_admitted (P := Paid settings client) (fun h ↦ h.sweep hidle)
    (fun h ns ↦ h.wait ns) (fun hc h ↦ h.allow_other hc) (fun h ↦ h.allow) h es⟩

end Paid

/-! ## The bound -/

/-- **Whatever happens, requests of one client that are let in one after the other take the time in
which their tokens come back, up to a burst**, if a client is not forgotten before its bucket is
full.  So at most a burst and one request are let in, and one for every token that comes back. -/
theorem admission_bound (settings : ThrottleSettings) (worker : Option (Nat × Bool))
    (tokenTime : Nat) (htoken : tokenTime = 1000000000 / max settings.perSecond 1)
    (hidle : tokenTime * max settings.burst 1 ≤ settings.idleTimeout) (client : String)
    (es : List Upkeep.Event) (calls : List Nat)
    (hcalls : calls <:+: (Upkeep.start settings worker).admitted client es) (hne : calls ≠ []) :
    (calls.length - 1) * tokenTime ≤
      calls.getLast hne - calls.head hne + tokenTime * max settings.burst 1 ∧
    (0 < tokenTime → calls.length ≤
      max settings.burst 1 + 1 + (calls.getLast hne - calls.head hne) / tokenTime) := by
  obtain rfl : tokenTime = settings.tokenTime := htoken
  rcases Nat.eq_zero_or_pos settings.tokenTime with hzero | hpos
  · rw [hzero, Nat.mul_zero, Nat.zero_mul]
    exact ⟨Nat.zero_le _, fun hpos ↦ absurd hpos (Nat.lt_irrefl 0)⟩
  · have htolerance := tolerance_eq hpos
    obtain ⟨t, now, hpaid⟩ := (Paid.new settings client 0).run
      (u := Upkeep.start settings worker) (htolerance ▸ hidle) es
    rw [List.nil_append] at hpaid
    have hspaced := hpaid.spaced calls hcalls hne
    have hordered : calls.head hne ≤ calls.getLast hne := by
      have hsorted : calls.Pairwise (· ≤ ·) := hpaid.ordered.sublist hcalls.sublist
      cases calls with
      | nil => exact absurd rfl hne
      | cons first rest =>
        rcases List.mem_cons.1 (List.getLast_mem hne) with heq | hmem
        · exact Nat.le_of_eq heq.symm
        · exact (List.pairwise_cons.1 hsorted).1 _ hmem
    have hbound : (calls.length - 1) * settings.tokenTime ≤
        calls.getLast hne - calls.head hne + settings.tokenTime * max settings.burst 1 := by
      rw [htolerance] at hspaced
      omega
    refine ⟨hbound, fun _ ↦ ?_⟩
    have hdiv : calls.length - 1 ≤
        (calls.getLast hne - calls.head hne) / settings.tokenTime + max settings.burst 1 := by
      rw [← Nat.add_mul_div_left _ _ hpos]
      exact (Nat.le_div_iff_mul_le hpos).2 hbound
    omega

/-- One token a second, and no memory for longer than that. -/
def scant : ThrottleSettings := ⟨1, 1, 1000000000, 0⟩

/-- A client that is refused, forgotten and let in again. -/
def returning : List Upkeep.Event :=
  [.allow "client", .allow "client", .advance 1000000001, .sweep, .allow "client"]

theorem admission_bound_returning :
    1000000000 = 1000000000 / max scant.perSecond 1 ∧
    1000000000 * max scant.burst 1 ≤ scant.idleTimeout ∧
    (Upkeep.start scant none).admitted "client" returning = [0, 1000000001] ∧
    (2 - 1) * 1000000000 ≤ 1000000001 - 0 + 1000000000 * max scant.burst 1 ∧
    (0 < 1000000000 → 2 ≤ max scant.burst 1 + 1 + (1000000001 - 0) / 1000000000) := by
  have htoken : 1000000000 = 1000000000 / max scant.perSecond 1 := by decide
  have hidle : 1000000000 * max scant.burst 1 ≤ scant.idleTimeout := by decide
  have hcalls : (Upkeep.start scant none).admitted "client" returning = [0, 1000000001] := rfl
  have hinfix : [0, 1000000001] <:+: (Upkeep.start scant none).admitted "client" returning :=
    hcalls ▸ List.infix_rfl
  exact ⟨htoken, hidle, hcalls,
    admission_bound scant none _ htoken hidle "client" returning _ hinfix (List.cons_ne_nil _ _)⟩

end Throttle

end Microblog
