import Microblog.Proofs.Upkeep.History

/-!
# What a worker keeps fresh

A worker that does a round every `interval` forgets idle clients and takes entries out whose time is
over.  It may come late by as long as time passes unnoticed, and what it finds in order may get out
of order right after it.  `Upkeep.freshness` says how much that can be: nothing stays for a full
interval longer than it should, and nothing goes before.

* After every event the next round is ahead, by an interval at most, and whatever is there is in
  order until one interval before that round (`Upkeep.Punctual`).  So what is there now has been out
  of order for less than an interval.
* A round that is missed is made up for by the next one, as that is done at the present
  (`Upkeep.Punctual.rounds`).
* A worker that was told to stop does no more rounds (`Upkeep.Retired`).

Look-ups leave a cache as it is, so that runs do not list them.
-/

set_option autoImplicit false

namespace Microblog

namespace Upkeep

variable {u : Upkeep} {interval due : Nat} {keepsCache : Bool} {es : List Event} {e : Event}

/-! ## The next round -/

theorem lt_nextDue (hpos : 0 < interval) (now : Nat) : now < nextDue interval now := by
  rw [nextDue, Nat.mul_comm]
  exact Nat.lt_mul_div_succ now hpos

theorem nextDue_le (interval now : Nat) : nextDue interval now ≤ now + interval := by
  rw [nextDue, Nat.succ_mul]
  exact Nat.add_le_add_right (Nat.div_mul_le_self now interval) interval

/-- The worker is at work, its next round comes at `due`, and until one interval before that round
all clients and entries are in order. -/
structure Punctual (interval : Nat) (keepsCache : Bool) (due : Nat) (u : Upkeep) : Prop where
  worker_eq : u.worker = some ⟨interval, due, keepsCache, true⟩
  now_lt : u.now < due
  due_le : due ≤ u.now + interval
  clients : ∀ client b, u.throttle.clients.get? client = some b →
    due ≤ b.lastSeen + u.throttle.settings.idleTimeout + interval
  entries : keepsCache = true → ∀ key entry, u.cache.entries.get? key = some entry →
    due ≤ entry.cachedAt + entry.lifetime + interval

namespace Punctual

theorem start (settings : ThrottleSettings) (hpos : 0 < interval) :
    Punctual interval keepsCache interval (.start settings (some (interval, keepsCache))) where
  worker_eq := by simp [Upkeep.start, Nat.ne_of_gt hpos]
  now_lt := hpos
  due_le := Nat.le_add_left _ _
  clients _ _ hb := nomatch hb
  entries _ _ _ hentry := nomatch hentry

/-- A round leaves what is in order now, whenever it was due. -/
theorem rounds (h : Punctual interval keepsCache due u) (hpos : 0 < interval) (he : u.Rounds e) :
    Punctual interval keepsCache (nextDue interval (u.step e).now) (u.step e) := by
  obtain ⟨w, hw, hstep⟩ := step_of_rounds he
  obtain rfl : ⟨interval, due, keepsCache, true⟩ = w :=
    Option.some.inj (h.worker_eq.symm.trans (Option.mem_def.1 hw))
  have hahead := nextDue_le interval (u.step e).now
  refine ⟨congrArg worker hstep, lt_nextDue hpos _, hahead, ?_, ?_⟩
  · intro client b hb
    rw [congrArg throttle hstep, Throttle.get?_sweep, Option.filter_eq_some_iff,
      Throttle.isActive_iff] at hb
    rw [settings_step]
    omega
  · rintro rfl key entry hentry
    rw [congrArg cache hstep, if_pos rfl, Cache.entries_purge, Option.filter_eq_some_iff,
      Cache.isLive_iff] at hentry
    omega

/-- Whatever else happens, what is new is in order, and the rest was there before. -/
theorem step_of_same (h : Punctual interval keepsCache due u)
    (hworker : (u.step e).worker = u.worker) (hnow : u.now ≤ (u.step e).now)
    (hdue : (u.step e).now < due) : Punctual interval keepsCache due (u.step e) := by
  have hahead := h.due_le
  refine ⟨hworker.trans h.worker_eq, hdue, by omega, ?_, ?_⟩
  · intro client b hb
    rw [settings_step]
    by_cases he : e = .allow client
    · subst he
      obtain ⟨b', hget, hseen⟩ := get?_step_allow u client
      obtain rfl := Option.some.inj (hget.symm.trans hb)
      omega
    · exact h.clients client b (get?_of_get?_step he hb)
  · intro hkeeps key entry hentry
    by_cases he : e.Puts key
    · obtain ⟨value, lifetime, rfl⟩ := he
      have hget : (u.step (.put key value lifetime)).cache.entries.get? key =
          some ⟨value.render, u.now, lifetime⟩ := Keyed.get?_put_self
      obtain rfl := Option.some.inj (hget.symm.trans hentry)
      show due ≤ u.now + lifetime + interval
      omega
    · exact h.entries hkeeps key entry (entry_of_entry_step he hentry)

/-- **After each event the next round is ahead, and nothing will be out of order for a full interval
by then.** -/
theorem step (h : Punctual interval keepsCache due u) (hpos : 0 < interval)
    (he : e ≠ .shutdown) : ∃ due', Punctual interval keepsCache due' (u.step e) := by
  by_cases hrounds : u.Rounds e
  · exact ⟨_, h.rounds hpos hrounds⟩
  · refine ⟨due, ?_⟩
    cases e with
    | allow | sweep | put | purge => exact h.step_of_same rfl (Nat.le_refl _) h.now_lt
    | shutdown => exact absurd rfl he
    | advance ns =>
      have hnow := u.now_advance ns
      have hdue : u.now + ns < due := by
        by_contra hlate
        refine hrounds ⟨ns, rfl, _, h.worker_eq, rfl, ?_⟩
        exact Nat.le_of_not_lt hlate
      refine h.step_of_same ?_ (by omega) (by omega)
      rw [step_advance_of_not_rounds hrounds]

theorem run (h : Punctual interval keepsCache due u) (hpos : 0 < interval)
    (hes : .shutdown ∉ es) : ∃ due', Punctual interval keepsCache due' (u.run es) := by
  induction es generalizing u due with
  | nil => exact ⟨due, h⟩
  | cons e es ih =>
    rw [List.mem_cons, not_or] at hes
    obtain ⟨due', hstep⟩ := h.step hpos (Ne.symm hes.1)
    exact ih hstep hes.2

end Punctual

/-! ## The order to stop -/

/-- There is no worker that does any rounds. -/
def Retired (u : Upkeep) : Prop := ∀ w ∈ u.worker, w.running = false

theorem Retired.not_rounds (h : u.Retired) (e : Event) : ¬u.Rounds e := by
  rintro ⟨ns, -, w, hw, hrunning, -⟩
  exact Bool.false_ne_true ((h w hw).symm.trans hrunning)

theorem retired_step_shutdown (u : Upkeep) : (u.step .shutdown).Retired := by
  intro w hw
  obtain ⟨w', -, rfl⟩ := Option.map_eq_some_iff.1 (Option.mem_def.1 hw)
  rfl

theorem Retired.step (h : u.Retired) (e : Event) : (u.step e).Retired := by
  cases e with
  | allow | sweep | put | purge => exact h
  | shutdown => exact retired_step_shutdown u
  | advance ns =>
    rw [step_advance_of_not_rounds (h.not_rounds _)]
    exact h

/-- A worker that was told to stop stays so. -/
theorem retired_run (start : Upkeep) (hes : .shutdown ∈ es) : (start.run es).Retired := by
  induction es using List.reverseRecOn with
  | nil => cases hes
  | append_singleton es e ih =>
    rw [run_concat]
    rcases List.mem_append.1 hes with hbefore | hlast
    · exact (ih hbefore).step e
    · obtain rfl := List.mem_singleton.1 hlast
      exact retired_step_shutdown _

/-! ## What goes and what stays -/

/-- The worker leaves a client alone that was seen lately. -/
theorem get?_advance_of_active {ns : Nat} {client : String} {b : Bucket}
    (hb : u.throttle.clients.get? client = some b)
    (hactive : u.now + ns - b.lastSeen ≤ u.throttle.settings.idleTimeout) :
    (u.step (.advance ns)).throttle.clients.get? client = some b := by
  by_cases hrounds : u.Rounds (.advance ns)
  · rw [throttle_step_of_sweeps (.inr hrounds), Throttle.get?_sweep, hb, now_advance,
      Option.filter_some, if_pos (Throttle.isActive_iff.2 hactive)]
  · rw [step_advance_of_not_rounds hrounds]
    exact hb

/-- The worker leaves an entry alone whose time is not over. -/
theorem entry_advance_of_live {ns : Nat} {key : String} {entry : CacheEntry}
    (hentry : u.cache.entries.get? key = some entry)
    (hlive : u.now + ns - entry.cachedAt < entry.lifetime) :
    (u.step (.advance ns)).cache.entries.get? key = some entry := by
  by_cases hrounds : u.Rounds (.advance ns)
  · obtain ⟨w, -, hstep⟩ := step_of_rounds hrounds
    rw [congrArg cache hstep, now_advance]
    cases w.keepsCache with
    | true =>
      rw [if_pos rfl, Cache.entries_purge, hentry, Option.filter_some,
        if_pos (Cache.isLive_iff.2 hlive)]
    | false =>
      rw [if_neg Bool.false_ne_true]
      exact hentry
  · rw [step_advance_of_not_rounds hrounds]
    exact hentry

/-! ## Freshness -/

/-- What a worker does for a throttle and, if it `keepsCache`, for a cache, after some events. -/
structure Freshness (start : Upkeep) (interval : Nat) (keepsCache : Bool) (es : List Event) :
    Prop where
  /-- Who is known made a request lately. -/
  clients : .shutdown ∉ es → ∀ client, (start.run es).Knows client →
    ∃ a, LatestRequest start es client a ∧
      (start.run es).now - a < start.throttle.settings.idleTimeout + interval
  /-- What is held was put lately. -/
  entries : .shutdown ∉ es → keepsCache = true → ∀ key entry,
    (start.run es).cache.entries.get? key = some entry → LatestPut start es key entry ∧
      (start.run es).now - entry.cachedAt < entry.lifetime + interval
  /-- While time passes, the worker forgets nobody who has not been idle for too long. -/
  sparesClients : ∀ ns client a, (start.run es).Knows client → LatestRequest start es client a →
    (start.run es).now + ns - a ≤ start.throttle.settings.idleTimeout →
    ((start.run es).step (.advance ns)).Knows client
  /-- Nor does it take an entry out whose time is not over. -/
  sparesEntries : ∀ ns key entry, (start.run es).cache.entries.get? key = some entry →
    (start.run es).now + ns - entry.cachedAt < entry.lifetime →
    ((start.run es).step (.advance ns)).cache.entries.get? key = some entry
  /-- Once it was told to stop, nothing but time passes. -/
  stops : .shutdown ∈ es → ∀ ns,
    (start.run es).step (.advance ns) = { start.run es with now := (start.run es).now + ns }

/-- **A worker keeps clients and entries fresh up to one interval**, takes nothing that is fresh,
and stops when it is told to. -/
theorem freshness (settings : ThrottleSettings) {interval : Nat} (hpos : 0 < interval)
    (keepsCache : Bool) (es : List Event) :
    Freshness (.start settings (some (interval, keepsCache))) interval keepsCache es := by
  have hstart : Punctual interval keepsCache interval
      (.start settings (some (interval, keepsCache))) := .start settings hpos
  have hclients : ∀ client,
      ¬(Upkeep.start settings (some (interval, keepsCache))).Knows client :=
    fun _ ⟨_, hb⟩ ↦ nomatch hb
  have hentries : ∀ key, (Upkeep.start settings (some (interval, keepsCache))).cache.entries.get?
      key = none := fun _ ↦ rfl
  refine {
    clients := fun hes client ⟨b, hb⟩ ↦ ?_
    entries := fun hes hkeeps key entry hentry ↦ ?_
    sparesClients := fun ns client a ⟨b, hb⟩ hlatest hactive ↦ ?_
    sparesEntries := fun ns key entry hentry hlive ↦ entry_advance_of_live hentry hlive
    stops := fun hes ns ↦ ?_ }
  · obtain ⟨due, hpunctual⟩ := hstart.run hpos hes
    have hnow := hpunctual.now_lt
    have hdue := hpunctual.clients client b hb
    rw [settings_run] at hdue
    exact ⟨b.lastSeen, latestRequest_of_known hclients hb, by omega⟩
  · obtain ⟨due, hpunctual⟩ := hstart.run hpos hes
    have hnow := hpunctual.now_lt
    have hdue := hpunctual.entries hkeeps key entry hentry
    exact ⟨latestPut_of_held hentries hentry, by omega⟩
  · have hseen : b.lastSeen = a := (latestRequest_of_known hclients hb).time_unique hlatest
    refine ⟨b, get?_advance_of_active hb ?_⟩
    rw [hseen, settings_run]
    exact hactive
  · exact step_advance_of_not_rounds ((retired_run _ hes).not_rounds _)

/-- A throttle that may forget a client at once, and a worker that comes by every millisecond. -/
def hasty : Upkeep := .start { idleTimeout := 0 } (some (1000000, true))

/-- A request and an entry that is over at once, just before the worker comes by. -/
def overdue : List Event := [.allow "client", .put "key" (.int 1) 0, .advance 999999]

/-- Both stay for nearly a millisecond, and no longer. -/
theorem freshness_overdue : 0 < 1000000 ∧ Freshness hasty 1000000 true overdue ∧
    (hasty.run overdue).throttle.tracked = 1 ∧ (hasty.run overdue).cache.size = 1 ∧
    (hasty.run (overdue ++ [.advance 1])).throttle.tracked = 0 ∧
    (hasty.run (overdue ++ [.advance 1])).cache.size = 0 :=
  ⟨by decide, freshness _ (by decide) true overdue, rfl, rfl, rfl, rfl⟩

end Upkeep

end Microblog
