import Mathlib.Data.List.Induction
import Microblog.Proofs.Cache.Expiry
import Microblog.Proofs.Throttle.Bucket
import Microblog.Proofs.Throttle.Run

/-!
# What happened last

A bucket says when its client was last seen, and an entry of the cache when it was put.  Neither is
more than what the events of the run tell: `Upkeep.Latest` finds the last event of a kind in a run,
and its time.

* A client that is known was last seen when it made its latest request, whether that was let in or
  refused (`Upkeep.latestRequest_of_known`).
* An entry that is held is what was put last under its key (`Upkeep.latestPut_of_held`).

Both go through the run by one fact about each event: it does what it is about, and else it leaves
of the others what was there before.
-/

set_option autoImplicit false

namespace Microblog

namespace Upkeep

variable {start u : Upkeep} {es : List Event} {e e' : Event} {p : Event → Prop} {a : Nat}
  {client key : String} {b : Bucket} {entry : CacheEntry}

theorem run_concat (start : Upkeep) (es : List Event) (e : Event) :
    start.run (es ++ [e]) = (start.run es).step e :=
  List.foldl_concat ..

/-! ## The last event of a kind -/

/-- Of the events that satisfy `p`, `e` happened last, at the time `a`. -/
structure Latest (start : Upkeep) (p : Event → Prop) (es : List Event) (e : Event) (a : Nat) :
    Prop where
  satisfies : p e
  last : ∃ before after, es = before ++ e :: after ∧ (∀ e' ∈ after, ¬p e') ∧
    a = (start.run before).now

/-- What happens now is the latest of its kind, and leaves what was the latest of another kind. -/
theorem latest_concat : Latest start p (es ++ [e']) e a ↔
    (e' = e ∧ p e ∧ a = (start.run es).now) ∨ (¬p e' ∧ Latest start p es e a) := by
  constructor
  · rintro ⟨hp, before, after, heq, hafter, htime⟩
    rcases Cache.split_concat_iff.1 heq with ⟨rfl, rfl, he⟩ | ⟨after, rfl, rfl⟩
    · exact .inl ⟨he, hp, htime⟩
    · refine .inr ⟨hafter e' (by simp), hp, before, after, rfl, ?_, htime⟩
      intro e'' he''
      exact hafter e'' (List.mem_append_left _ he'')
  · rintro (⟨rfl, hp, htime⟩ | ⟨hne, hp, before, after, rfl, hafter, htime⟩)
    · exact ⟨hp, es, [], rfl, by simp, htime⟩
    · refine ⟨hp, before, after ++ [e'], by simp, ?_, htime⟩
      intro e'' he''
      rcases List.mem_append.1 he'' with hmem | hmem
      · exact hafter e'' hmem
      · rw [List.mem_singleton.1 hmem]
        exact hne

/-- Nothing happens last at two times. -/
theorem Latest.time_unique {a' : Nat} (h : Latest start p es e a) (h' : Latest start p es e a') :
    a = a' := by
  induction es using List.reverseRecOn with
  | nil =>
    obtain ⟨-, before, after, heq, -⟩ := h
    simp at heq
  | append_singleton es e'' ih =>
    rcases latest_concat.1 h with ⟨rfl, hp, rfl⟩ | ⟨hne, hbefore⟩
    · rcases latest_concat.1 h' with ⟨-, -, rfl⟩ | ⟨hne, -⟩
      · rfl
      · exact absurd hp hne
    · rcases latest_concat.1 h' with ⟨rfl, hp, -⟩ | ⟨-, hbefore'⟩
      · exact absurd hp hne
      · exact ih hbefore hbefore'

/-- The latest request of a client, let in or refused, was made at the time `a`. -/
def LatestRequest (start : Upkeep) (es : List Event) (client : String) (a : Nat) : Prop :=
  Latest start (· = .allow client) es (.allow client) a

/-- The event puts something under a key. -/
def Event.Puts (key : String) (e : Event) : Prop := ∃ value lifetime, e = .put key value lifetime

/-- An entry is what was put last under a key, and when. -/
def LatestPut (start : Upkeep) (es : List Event) (key : String) (entry : CacheEntry) : Prop :=
  ∃ value, entry.json = value.render ∧
    Latest start (Event.Puts key) es (.put key value entry.lifetime) entry.cachedAt

/-! ## Rounds and sweeps -/

/-- A round of the worker is due. -/
def RoundDue (u : Upkeep) : Prop := ∃ w ∈ u.worker, w.running = true ∧ w.due ≤ u.now

/-- The event lets so much time pass that the worker does a round. -/
def Rounds (u : Upkeep) (e : Event) : Prop :=
  ∃ ns, e = .advance ns ∧ RoundDue { u with now := u.now + ns }

/-- The event sweeps the throttle, or lets the worker do so. -/
def Sweeps (u : Upkeep) (e : Event) : Prop := e = .sweep ∨ u.Rounds e

theorem work_of_due (h : u.RoundDue) : ∃ w ∈ u.worker, u.work =
    { u.round w.keepsCache with worker := some { w with due := nextDue w.interval u.now } } := by
  obtain ⟨w, hw, hrunning, hdue⟩ := h
  refine ⟨w, hw, ?_⟩
  simp only [work, Option.mem_def.1 hw, hrunning, hdue, and_self, if_true]

theorem work_of_not_due (h : ¬u.RoundDue) : u.work = u := by
  rw [work]
  split
  · rename_i w hw
    rw [if_neg fun hdue ↦ h ⟨w, hw, hdue.1, hdue.2⟩]
  · rfl

theorem now_work (u : Upkeep) : u.work.now = u.now := by
  by_cases h : u.RoundDue
  · obtain ⟨w, -, hwork⟩ := work_of_due h
    rw [hwork, round]
  · rw [work_of_not_due h]

theorem now_advance (u : Upkeep) (ns : Nat) : (u.step (.advance ns)).now = u.now + ns :=
  now_work _

/-- A round is done at the time at which the event ends, whatever it was due for. -/
theorem step_of_rounds (h : u.Rounds e) : ∃ w ∈ u.worker, u.step e =
    { throttle := (u.throttle.sweep (u.step e).now).2
      cache := if w.keepsCache then (u.cache.purge (u.step e).now).2 else u.cache
      worker := some { w with due := nextDue w.interval (u.step e).now }
      now := (u.step e).now } := by
  obtain ⟨ns, rfl, hdue⟩ := h
  obtain ⟨w, hw, hwork⟩ := work_of_due hdue
  refine ⟨w, hw, ?_⟩
  rw [now_advance, step, advance, hwork, round]

/-- Without a round, time passes and nothing else happens. -/
theorem step_advance_of_not_rounds {ns : Nat} (h : ¬u.Rounds (.advance ns)) :
    u.step (.advance ns) = { u with now := u.now + ns } :=
  work_of_not_due fun hdue ↦ h ⟨ns, rfl, hdue⟩

/-- A sweep is made at the time at which the event ends. -/
theorem throttle_step_of_sweeps (h : u.Sweeps e) :
    (u.step e).throttle = (u.throttle.sweep (u.step e).now).2 := by
  rcases h with rfl | hrounds
  · rfl
  · obtain ⟨w, -, hstep⟩ := step_of_rounds hrounds
    exact congrArg throttle hstep

/-- Nothing but requests and sweeps changes a throttle. -/
theorem throttle_step_of_not_sweeps (h : ¬u.Sweeps e) (he : ∀ client, e ≠ .allow client) :
    (u.step e).throttle = u.throttle := by
  cases e with
  | allow client => exact absurd rfl (he client)
  | sweep => exact absurd (.inl rfl) h
  | put | purge | shutdown => rfl
  | advance ns => rw [step_advance_of_not_rounds fun hrounds ↦ h (.inr hrounds)]

/-! ## Clients -/

/-- The throttle remembers a client. -/
def Knows (u : Upkeep) (client : String) : Prop := ∃ b, u.throttle.clients.get? client = some b

/-- What a request leaves of the client that makes it. -/
theorem get?_step_allow (u : Upkeep) (client : String) :
    ∃ b, (u.step (.allow client)).throttle.clients.get? client = some b ∧ b.lastSeen = u.now := by
  have hget : (u.throttle.allow u.now client).2.clients.get? client =
      some (Throttle.take u.throttle.settings u.now (u.throttle.bucketOf u.now client)).2 :=
    Throttle.get?_allow.trans (if_pos rfl)
  exact ⟨_, hget, Throttle.lastSeen_take _⟩

/-- No other event brings a bucket in, or changes one. -/
theorem get?_of_get?_step (he : e ≠ .allow client)
    (h : (u.step e).throttle.clients.get? client = some b) :
    u.throttle.clients.get? client = some b := by
  by_cases hallow : ∃ c, e = .allow c
  · obtain ⟨c, rfl⟩ := hallow
    have hne : client ≠ c := by
      rintro rfl
      exact he rfl
    have hget : (u.throttle.allow u.now c).2.clients.get? client = some b := h
    rwa [Throttle.get?_allow, if_neg hne] at hget
  · by_cases hsweeps : u.Sweeps e
    · rw [throttle_step_of_sweeps hsweeps, Throttle.get?_sweep, Option.filter_eq_some_iff] at h
      exact h.1
    · rwa [throttle_step_of_not_sweeps hsweeps (not_exists.1 hallow)] at h

/-- **A bucket tells when its client made its latest request**, let in or refused. -/
theorem latestRequest_of_known (hnew : ∀ client, ¬start.Knows client)
    (h : (start.run es).throttle.clients.get? client = some b) :
    LatestRequest start es client b.lastSeen := by
  induction es using List.reverseRecOn generalizing b with
  | nil => exact absurd ⟨b, h⟩ (hnew client)
  | append_singleton es e ih =>
    rw [run_concat] at h
    by_cases he : e = .allow client
    · subst he
      obtain ⟨b', hget, hseen⟩ := get?_step_allow (start.run es) client
      obtain rfl := Option.some.inj (hget.symm.trans h)
      exact latest_concat.2 (.inl ⟨rfl, rfl, hseen⟩)
    · exact latest_concat.2 (.inr ⟨he, ih (get?_of_get?_step he h)⟩)

theorem settings_step (u : Upkeep) (e : Event) :
    (u.step e).throttle.settings = u.throttle.settings := by
  by_cases hallow : ∃ c, e = .allow c
  · obtain ⟨c, rfl⟩ := hallow
    rfl
  · exact step_keeps (P := fun t _ ↦ t.settings = u.throttle.settings) (fun h ↦ h) (fun h _ ↦ h)
      (not_exists.1 hallow) rfl

theorem settings_run (start : Upkeep) (es : List Event) :
    (start.run es).throttle.settings = start.throttle.settings := by
  induction es using List.reverseRecOn with
  | nil => rfl
  | append_singleton es e ih => rw [run_concat, settings_step, ih]

/-! ## Entries -/

/-- Whatever puts nothing under a key brings no entry in there, and changes none. -/
theorem entry_of_entry_step (he : ¬e.Puts key)
    (h : (u.step e).cache.entries.get? key = some entry) :
    u.cache.entries.get? key = some entry := by
  have hpurge : ∀ {c : Cache} {now : Nat}, (c.purge now).2.entries.get? key = some entry →
      c.entries.get? key = some entry := by
    intro c now hget
    rw [Cache.entries_purge, Option.filter_eq_some_iff] at hget
    exact hget.1
  cases e with
  | put key' value lifetime =>
    have hne : key ≠ key' := by
      rintro rfl
      exact he ⟨value, lifetime, rfl⟩
    exact (Keyed.get?_put_of_ne hne).symm.trans h
  | allow | sweep | shutdown => exact h
  | purge => exact hpurge h
  | advance ns =>
    by_cases hrounds : u.Rounds (.advance ns)
    · obtain ⟨w, -, hstep⟩ := step_of_rounds hrounds
      rw [congrArg cache hstep] at h
      cases hkeeps : w.keepsCache with
      | true =>
        rw [hkeeps] at h
        exact hpurge h
      | false =>
        rw [hkeeps] at h
        exact h
    · rwa [step_advance_of_not_rounds hrounds] at h

/-- **An entry is what was put last under its key.** -/
theorem latestPut_of_held (hnew : ∀ key, start.cache.entries.get? key = none)
    (h : (start.run es).cache.entries.get? key = some entry) : LatestPut start es key entry := by
  induction es using List.reverseRecOn generalizing entry with
  | nil => exact absurd ((hnew key).symm.trans h) nofun
  | append_singleton es e ih =>
    rw [run_concat] at h
    by_cases he : e.Puts key
    · obtain ⟨value, lifetime, rfl⟩ := he
      have hget : ((start.run es).step (.put key value lifetime)).cache.entries.get? key =
          some ⟨value.render, (start.run es).now, lifetime⟩ := Keyed.get?_put_self
      obtain rfl := Option.some.inj (hget.symm.trans h)
      exact ⟨value, rfl, latest_concat.2 (.inl ⟨rfl, ⟨value, lifetime, rfl⟩, rfl⟩)⟩
    · obtain ⟨value, hjson, hlatest⟩ := ih (entry_of_entry_step he h)
      exact ⟨value, hjson, latest_concat.2 (.inr ⟨he, hlatest⟩)⟩

end Upkeep

end Microblog
