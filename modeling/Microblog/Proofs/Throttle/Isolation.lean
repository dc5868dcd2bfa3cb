import Microblog.Proofs.Upkeep.History

/-!
# Each client on its own

All clients share one throttle, which every request changes and every sweep goes through.  Still no
client notices the others: `Throttle.isolation` says that its requests are answered, and that it is
remembered, as if nobody else made any, and whom a sweep forgets.

* `Upkeep.Alike` relates two throttles that one client cannot tell apart: they have the same bucket
  for it, and are swept at the same times.  A request of another client changes neither, and all
  else changes both in the same way, so that a run is like the one without the others' requests.
* Nobody is forgotten but by a sweep, and a sweep forgets those whose latest request was too long
  ago (`Upkeep.evicts_iff`).  Hence a client is known if it has made a request and was not forgotten
  since (`Upkeep.knows_run_iff`).
-/

set_option autoImplicit false

namespace Microblog

namespace Upkeep

variable {start u u' : Upkeep} {es : List Event} {e : Event} {client : String}

/-! ## What others do -/

/-- Whether an event is a request of another client. -/
def Event.isOthers (client : String) : Event → Bool
  | .allow c => c ≠ client
  | _ => false

/-- The events but for the requests of other clients. -/
def withoutOthers (client : String) (es : List Event) : List Event :=
  es.filter fun e ↦ !e.isOthers client

/-- Two throttles that a client cannot tell apart, with a worker that does the same for both. -/
structure Alike (client : String) (u u' : Upkeep) : Prop where
  now_eq : u.now = u'.now
  worker_eq : u.worker = u'.worker
  settings_eq : u.throttle.settings = u'.throttle.settings
  bucket_eq : u.throttle.clients.get? client = u'.throttle.clients.get? client

namespace Alike

theorem refl (client : String) (u : Upkeep) : Alike client u u := ⟨rfl, rfl, rfl, rfl⟩

theorem knows_iff (h : Alike client u u') : u.Knows client ↔ u'.Knows client := by
  rw [Knows, Knows, h.bucket_eq]

theorem bucketOf_eq (h : Alike client u u') :
    u.throttle.bucketOf u.now client = u'.throttle.bucketOf u'.now client := by
  rw [Throttle.bucketOf, Throttle.bucketOf, h.bucket_eq, h.settings_eq, h.now_eq]

theorem sweeps_iff (h : Alike client u u') : u.Sweeps e ↔ u'.Sweeps e := by
  simp only [Sweeps, Rounds, RoundDue, h.now_eq, h.worker_eq]

/-- A request of another client is not noticed. -/
theorem skip (h : Alike client u u') (he : e.isOthers client = true) :
    Alike client (u.step e) u' := by
  cases e with
  | allow c =>
    have hc : c ≠ client := of_decide_eq_true he
    refine ⟨h.now_eq, h.worker_eq, h.settings_eq, ?_⟩
    rw [← h.bucket_eq, step, Throttle.get?_allow, if_neg (Ne.symm hc)]
  | sweep | put | purge | advance | shutdown => cases he

/-- All else happens to both. -/
theorem step_both (h : Alike client u u') (he : e.isOthers client = false) :
    Alike client (u.step e) (u'.step e) := by
  have hnow : (u.step e).now = (u'.step e).now := by
    cases e with
    | allow | sweep | put | purge | shutdown => exact h.now_eq
    | advance ns => rw [now_advance, now_advance, h.now_eq]
  refine ⟨hnow, ?_, ?_, ?_⟩
  · cases e with
    | allow | sweep | put | purge => exact h.worker_eq
    | shutdown =>
      simp only [step, shutdown, h.worker_eq]
    | advance ns =>
      simp only [step, advance, work, h.now_eq, h.worker_eq]
      split
      · split <;> rfl
      · rfl
  · rw [settings_step, settings_step, h.settings_eq]
  · by_cases hallow : ∃ c, e = .allow c
    · obtain ⟨c, rfl⟩ := hallow
      obtain rfl : c = client := by simpa [Event.isOthers] using he
      rw [step, step, Throttle.get?_allow, Throttle.get?_allow, if_pos rfl, if_pos rfl,
        h.bucketOf_eq, h.settings_eq, h.now_eq]
    · rw [not_exists] at hallow
      by_cases hsweeps : u.Sweeps e
      · rw [throttle_step_of_sweeps hsweeps, throttle_step_of_sweeps (h.sweeps_iff.1 hsweeps),
          Throttle.get?_sweep, Throttle.get?_sweep, h.bucket_eq, h.settings_eq, hnow]
      · rw [throttle_step_of_not_sweeps hsweeps hallow,
          throttle_step_of_not_sweeps (fun hsweeps' ↦ hsweeps (h.sweeps_iff.2 hsweeps')) hallow,
          h.bucket_eq]

theorem answersAt_eq (h : Alike client u u') (e : Event) :
    u.answersAt client e = u'.answersAt client e := by
  cases e with
  | allow c =>
    rw [answersAt, answersAt]
    split
    · rename_i hc
      rw [hc, Throttle.allow_eq, Throttle.allow_eq, h.bucketOf_eq, h.settings_eq, h.now_eq]
    · rfl
  | sweep | put | purge | advance | shutdown => rfl

/-- **Without the requests of the others a run is the same for a client.** -/
theorem run (h : Alike client u u') (es : List Event) :
    Alike client (u.run es) (u'.run (withoutOthers client es)) ∧
      answers client u es = answers client u' (withoutOthers client es) := by
  induction es generalizing u u' with
  | nil => exact ⟨h, rfl⟩
  | cons e es ih =>
    cases he : e.isOthers client with
    | true =>
      have hskip : withoutOthers client (e :: es) = withoutOthers client es := by
        simp [withoutOthers, he]
      have hnone : u.answersAt client e = [] := by
        refine answersAt_of_not_request ?_ u
        cases e with
        | allow c => simpa [Event.isOthers, Event.isRequestOf] using he
        | sweep | put | purge | advance | shutdown => rfl
      rw [hskip, answers, hnone, List.nil_append]
      exact ih (h.skip he)
    | false =>
      have hkeep : withoutOthers client (e :: es) = e :: withoutOthers client es := by
        simp [withoutOthers, he]
      obtain ⟨hrun, hanswers⟩ := ih (h.step_both he)
      rw [hkeep, answers, answers, h.answersAt_eq, hanswers]
      exact ⟨hrun, rfl⟩

end Alike

/-! ## Who is forgotten -/

/-- The client is known, and is not any more after the event. -/
def Evicts (u : Upkeep) (e : Event) (client : String) : Prop :=
  u.Knows client ∧ ¬(u.step e).Knows client

theorem knows_step_allow (u : Upkeep) (client : String) :
    (u.step (.allow client)).Knows client := by
  obtain ⟨b, hget, -⟩ := get?_step_allow u client
  exact ⟨b, hget⟩

/-- A request makes nobody forgotten. -/
theorem Knows.step_allow (h : u.Knows client) (c : String) :
    (u.step (.allow c)).Knows client := by
  by_cases hc : client = c
  · exact hc ▸ knows_step_allow u client
  · obtain ⟨b, hb⟩ := h
    refine ⟨b, ?_⟩
    rw [step, Throttle.get?_allow, if_neg hc]
    exact hb

/-- **A sweep forgets those that were not seen for too long**, and nobody else is forgotten. -/
theorem evicts_iff : u.Evicts e client ↔ u.Sweeps e ∧
    ∃ b, u.throttle.clients.get? client = some b ∧
      u.throttle.settings.idleTimeout < (u.step e).now - b.lastSeen := by
  by_cases hallow : ∃ c, e = .allow c
  · obtain ⟨c, rfl⟩ := hallow
    refine iff_of_false (fun hevicts ↦ hevicts.2 (hevicts.1.step_allow c)) ?_
    rintro ⟨hsweeps, -⟩
    simp [Sweeps, Rounds] at hsweeps
  · by_cases hsweeps : u.Sweeps e
    · simp only [Evicts, Knows, throttle_step_of_sweeps hsweeps, Throttle.get?_sweep, hsweeps,
        true_and]
      cases hb : u.throttle.clients.get? client with
      | none => simp
      | some b =>
        rw [Option.filter_some]
        split
        · rename_i hactive
          simp [Nat.not_lt.2 (Throttle.isActive_iff.1 hactive)]
        · rename_i hidle
          simp [Throttle.isActive_eq_false_iff.1 (Bool.eq_false_of_not_eq_true hidle)]
    · refine iff_of_false ?_ fun hboth ↦ hsweeps hboth.1
      rintro ⟨hknown, hforgotten⟩
      rw [Knows, throttle_step_of_not_sweeps hsweeps (not_exists.1 hallow)] at hforgotten
      exact hforgotten hknown

/-- What is said of every event of a list is said of the last one, and of those before it. -/
theorem forall_split_concat {q : List Event → Event → Prop} :
    (∀ first e' rest, es ++ [e] = first ++ e' :: rest → q first e') ↔
      q es e ∧ ∀ first e' rest, es = first ++ e' :: rest → q first e' := by
  constructor
  · intro h
    refine ⟨h es e [] rfl, ?_⟩
    rintro first e' rest rfl
    exact h first e' (rest ++ [e]) (by simp)
  · rintro ⟨hlast, hbefore⟩ first e' rest heq
    rcases Cache.split_concat_iff.1 heq with ⟨rfl, rfl, rfl⟩ | ⟨rest, rfl, hrest⟩
    · exact hlast
    · exact hbefore first e' rest hrest

/-- **A client is known if it made a request and was not forgotten since.** -/
theorem knows_run_iff (hnew : ¬start.Knows client) : (start.run es).Knows client ↔
    ∃ before after, es = before ++ .allow client :: after ∧
      ∀ first e rest, after = first ++ e :: rest →
        ¬(start.run (before ++ .allow client :: first)).Evicts e client := by
  induction es using List.reverseRecOn with
  | nil =>
    refine iff_of_false hnew ?_
    rintro ⟨before, after, heq, -⟩
    simp at heq
  | append_singleton es e ih =>
    rw [run_concat]
    constructor
    · rintro ⟨b, hb⟩
      by_cases he : e = .allow client
      · exact ⟨es, [], by rw [he], fun first e' rest heq ↦ by simp at heq⟩
      · have hbefore : (start.run es).Knows client := ⟨b, get?_of_get?_step he hb⟩
        obtain ⟨before, after, rfl, hkept⟩ := ih.1 hbefore
        refine ⟨before, after ++ [e], by simp, forall_split_concat.2 ⟨?_, hkept⟩⟩
        exact fun hevicts ↦ hevicts.2 ⟨b, hb⟩
    · rintro ⟨before, after, heq, hkept⟩
      rcases Cache.split_concat_iff.1 heq with ⟨rfl, rfl, rfl⟩ | ⟨after, rfl, rfl⟩
      · exact knows_step_allow _ client
      · obtain ⟨hlast, hbefore⟩ := forall_split_concat.1 hkept
        by_contra hforgotten
        exact hlast ⟨ih.2 ⟨before, after, rfl, hbefore⟩, hforgotten⟩

/-- A sweep counts those whom it forgets. -/
theorem fst_sweep (u : Upkeep) :
    ((u.throttle.sweep u.now).1 : ℕ∞) = {client | u.Evicts .sweep client}.encard := by
  have hcount : (u.throttle.sweep u.now).1 = (u.throttle.clients.keep
      fun _ b ↦ !Throttle.isActive u.throttle.settings u.now b).size :=
    Keyed.size_sub_size_keep _ _
  have hkeys : {client | u.Evicts .sweep client} = {client | ∃ b, (u.throttle.clients.keep
      fun _ b ↦ !Throttle.isActive u.throttle.settings u.now b).get? client = some b} := by
    ext client
    have hsweeps : u.Sweeps .sweep := .inl rfl
    have hnow : (u.step .sweep).now = u.now := rfl
    simp only [Set.mem_ofPred_eq, evicts_iff, hsweeps, hnow, true_and, Keyed.get?_keep,
      Option.filter_eq_some_iff, Bool.not_eq_true', Throttle.isActive_eq_false_iff]
  rw [hcount, hkeys, Keyed.encard_keys]

end Upkeep

namespace Throttle

open Upkeep

/-! ## Isolation -/

/-- What the clients of a throttle may rely on after some events, and during them. -/
structure Isolation (start : Upkeep) (es : List Event) : Prop where
  /-- The requests of a client are let in or refused as if nobody else made any. -/
  answers : ∀ client, answers client start es = answers client start (withoutOthers client es)
  /-- After each event the client is known if, and only if, it would be known then. -/
  known : ∀ client before, before <+: es →
    ((start.run before).Knows client ↔ (start.run (withoutOthers client before)).Knows client)
  /-- Whoever sweeps the throttle, it forgets those clients whose latest request, let in or refused,
  was longer ago than they may be idle.  Nothing else makes it forget anyone. -/
  evicts : ∀ e client, (start.run es).Evicts e client ↔
    (start.run es).Sweeps e ∧ (start.run es).Knows client ∧
      ∃ a, LatestRequest start es client a ∧
        start.throttle.settings.idleTimeout < ((start.run es).step e).now - a
  /-- A sweep counts those whom it forgets. -/
  counts : (((start.run es).throttle.sweep (start.run es).now).1 : ℕ∞) =
    {client | (start.run es).Evicts .sweep client}.encard
  /-- A client is known if it made a request since it was last forgotten. -/
  knows : ∀ client, (start.run es).Knows client ↔
    ∃ before after, es = before ++ .allow client :: after ∧
      ∀ first e rest, after = first ++ e :: rest →
        ¬(start.run (before ++ .allow client :: first)).Evicts e client
  tracked : ((start.run es).throttle.tracked : ℕ∞) =
    {client | (start.run es).Knows client}.encard

/-- **No client of a throttle notices the others**, whatever it does and they do. -/
theorem isolation (settings : ThrottleSettings) (worker : Option (Nat × Bool)) (es : List Event) :
    Isolation (.start settings worker) es := by
  have hnew : ∀ client, ¬(Upkeep.start settings worker).Knows client := fun _ ⟨_, hb⟩ ↦ nomatch hb
  refine {
    answers := fun client ↦ ((Alike.refl client _).run es).2
    known := fun client before _ ↦ ((Alike.refl client _).run before).1.knows_iff
    evicts := fun e client ↦ ?_
    counts := fst_sweep _
    knows := fun client ↦ knows_run_iff (hnew client)
    tracked := (Keyed.encard_keys _).symm }
  rw [evicts_iff, settings_run]
  refine and_congr_right fun _ ↦ ?_
  constructor
  · rintro ⟨b, hb, hidle⟩
    exact ⟨⟨b, hb⟩, b.lastSeen, latestRequest_of_known hnew hb, hidle⟩
  · rintro ⟨⟨b, hb⟩, a, hlatest, hidle⟩
    have hseen : b.lastSeen = a := (latestRequest_of_known hnew hb).time_unique hlatest
    exact ⟨b, hb, hseen ▸ hidle⟩

end Throttle

end Microblog
