import Mathlib.Data.List.Induction
import Mathlib.Data.List.Infix
import Microblog.Proofs.Cache

/-!
# Runs of the cache

A cache is a map whose entries expire.  What a look-up finds is told by what happened before,
without a word about purges: it is what was put last under the key, as long as that is not over.

* `Cache.LatestPut` says what was put last under a key, and `Cache.Held` that moreover no purge has
  found its time to be over.  The entries of the cache are what is held (`Cache.entries_run`).
* What is not over yet was not over at any purge before, so that for a look-up the two are the same
  (`Cache.held_iff_of_lt`).
* Purges change nothing that a look-up can find, now or later (`Cache.Alike`).

`Cache.expiring_map` puts this together for every run.
-/

set_option autoImplicit false

namespace Microblog

namespace Cache

/-! ## Runs -/

/-- What may happen to a cache. -/
inductive Event : Type 1 where
  | put (key : String) (value : Json) (lifetime : Nat)
  /-- A value is looked up, and read as one of some type. -/
  | get {α : Type} (decode : Decoder α) (key : String)
  | purge
  | advance (ns : Nat)

/-- A cache and the time. -/
structure Clocked where
  cache : Cache
  now : Nat

/-- The empty cache, at the beginning of time. -/
def start : Clocked := ⟨.empty, 0⟩

/-- The cache and the time after an event. -/
def step (s : Clocked) : Event → Clocked
  | .put key value lifetime => { s with cache := s.cache.put s.now key value lifetime }
  | .get _ _ => s
  | .purge => { s with cache := (s.cache.purge s.now).2 }
  | .advance ns => { s with now := s.now + ns }

/-- The cache and the time after some events, one after the other. -/
def run (es : List Event) : Clocked := es.foldl step start

/-- What a look-up answers, with the type as which the value is read. -/
def answerAt (s : Clocked) : Event → List (Σ α : Type, Option α)
  | .get decode key => [⟨_, s.cache.get? decode s.now key⟩]
  | .put .. | .purge | .advance _ => []

/-- What the look-ups among some events answer, in order. -/
def answers : Clocked → List Event → List (Σ α : Type, Option α)
  | _, [] => []
  | s, e :: es => answerAt s e ++ answers (step s e) es

def Event.isPurge : Event → Bool
  | .purge => true
  | .put .. | .get .. | .advance _ => false

/-- The events but for the purges. -/
def withoutPurges (es : List Event) : List Event := es.filter fun e ↦ !e.isPurge

/-! ## What happened before -/

/-- How long an event takes. -/
def Event.duration : Event → Nat
  | .advance ns => ns
  | .put .. | .get .. | .purge => 0

/-- How long some events take. -/
def elapsed (es : List Event) : Nat := (es.map Event.duration).sum

/-- What was put under a key, and when. -/
structure Put where
  value : Json
  lifetime : Nat
  time : Nat

/-- What the cache keeps of it. -/
def Put.entry (p : Put) : CacheEntry := ⟨p.value.render, p.time, p.lifetime⟩

/-- `p` was put under `key`, and nothing was put there during `after`, which is all that happened
since. -/
structure Since (es : List Event) (key : String) (p : Put) (after : List Event) : Prop where
  put : ∃ before, es = before ++ .put key p.value p.lifetime :: after ∧ p.time = elapsed before
  latest : ∀ value lifetime, .put key value lifetime ∉ after

/-- `p` was put last under `key`. -/
def LatestPut (es : List Event) (key : String) (p : Put) : Prop := ∃ after, Since es key p after

/-- `p` was put last under `key`, and no purge since has found its time to be over. -/
def Held (es : List Event) (key : String) (p : Put) : Prop :=
  ∃ after, Since es key p after ∧
    ∀ before rest, after = before ++ .purge :: rest → elapsed before < p.lifetime

variable {es : List Event} {e : Event} {key : String} {p : Put} {after : List Event}

/-- What happened in a history that goes on happened last, or before that. -/
theorem split_concat_iff {α : Type*} {before after es : List α} {e e' : α} :
    es ++ [e] = before ++ e' :: after ↔ (after = [] ∧ es = before ∧ e = e') ∨
      ∃ rest, after = rest ++ [e] ∧ es = before ++ e' :: rest := by
  constructor
  · intro heq
    rcases List.eq_nil_or_concat after with rfl | ⟨rest, last, rfl⟩
    · obtain ⟨hes, he⟩ := List.append_inj' heq rfl
      exact .inl ⟨rfl, hes, (List.cons.inj he).1⟩
    · rw [List.concat_eq_append, ← List.cons_append, ← List.append_assoc] at heq
      obtain ⟨hes, he⟩ := List.append_inj' heq rfl
      obtain rfl := (List.cons.inj he).1
      exact .inr ⟨rest, List.concat_eq_append, hes⟩
  · rintro (⟨rfl, rfl, rfl⟩ | ⟨rest, rfl, rfl⟩)
    · rfl
    · simp

theorem run_concat (es : List Event) (e : Event) : run (es ++ [e]) = step (run es) e :=
  List.foldl_concat ..

theorem elapsed_append (es es' : List Event) : elapsed (es ++ es') = elapsed es + elapsed es' := by
  rw [elapsed, List.map_append, List.sum_append]
  rfl

theorem now_step (s : Clocked) (e : Event) : (step s e).now = s.now + e.duration := by
  cases e <;> rfl

theorem now_run (es : List Event) : (run es).now = elapsed es := by
  induction es using List.reverseRecOn with
  | nil => rfl
  | append_singleton es e ih =>
    rw [run_concat, now_step, ih, elapsed_append, elapsed, elapsed, List.map_singleton,
      List.sum_singleton]

/-- The time since something was put is the time that passed since. -/
theorem Since.now_sub (h : Since es key p after) : (run es).now - p.time = elapsed after := by
  obtain ⟨before, rfl, htime⟩ := h.put
  have hput : elapsed (.put key p.value p.lifetime :: after) = elapsed after := Nat.zero_add _
  rw [now_run, elapsed_append, hput, htime, Nat.add_sub_cancel_left]

/-- **What is not over has never been over**, at whatever time a purge came by. -/
theorem held_iff_of_lt (hlive : (run es).now - p.time < p.lifetime) :
    Held es key p ↔ LatestPut es key p := by
  refine ⟨fun ⟨after, hsince, _⟩ ↦ ⟨after, hsince⟩, fun ⟨after, hsince⟩ ↦ ⟨after, hsince, ?_⟩⟩
  rintro before rest rfl
  rw [hsince.now_sub, elapsed_append] at hlive
  omega

/-- What happened since something was put goes on with each event that puts nothing there. -/
theorem since_concat : Since (es ++ [e]) key p after ↔
    (after = [] ∧ e = .put key p.value p.lifetime ∧ p.time = elapsed es) ∨
    ∃ before, after = before ++ [e] ∧ Since es key p before ∧
      ∀ value lifetime, e ≠ .put key value lifetime := by
  constructor
  · rintro ⟨⟨before, heq, htime⟩, hlatest⟩
    rcases split_concat_iff.1 heq with ⟨rfl, rfl, he⟩ | ⟨after, rfl, rfl⟩
    · exact .inl ⟨rfl, he, htime⟩
    · refine .inr ⟨after, rfl, ⟨⟨before, rfl, htime⟩, fun value lifetime hmem ↦ ?_⟩, ?_⟩
      · exact hlatest value lifetime (List.mem_append_left _ hmem)
      · rintro value lifetime rfl
        exact hlatest value lifetime (List.mem_append_right _ (List.mem_singleton_self _))
  · rintro (⟨rfl, rfl, htime⟩ | ⟨before, rfl, ⟨⟨first, rfl, htime⟩, hlatest⟩, hne⟩)
    · exact ⟨⟨es, rfl, htime⟩, fun _ _ ↦ List.not_mem_nil⟩
    · have heq : first ++ .put key p.value p.lifetime :: before ++ [e] =
          first ++ .put key p.value p.lifetime :: (before ++ [e]) := by
        rw [List.append_assoc, List.cons_append]
      refine ⟨⟨first, heq, htime⟩, fun value lifetime hmem ↦ ?_⟩
      rcases List.mem_append.1 hmem with hmem | hmem
      · exact hlatest value lifetime hmem
      · exact hne value lifetime (List.mem_singleton.1 hmem).symm

/-- What an event leaves of what is held. -/
theorem held_concat : Held (es ++ [e]) key p ↔
    (e = .put key p.value p.lifetime ∧ p.time = elapsed es) ∨
    (Held es key p ∧ (∀ value lifetime, e ≠ .put key value lifetime) ∧
      (e = .purge → (run es).now - p.time < p.lifetime)) := by
  simp only [Held, since_concat]
  constructor
  · rintro ⟨after, ⟨rfl, he, htime⟩ | ⟨before, rfl, hsince, hne⟩, hpurges⟩
    · exact .inl ⟨he, htime⟩
    · refine .inr ⟨⟨before, hsince, fun first rest heq ↦ ?_⟩, hne, ?_⟩
      · exact hpurges first (rest ++ [e]) (by rw [heq, List.append_assoc, List.cons_append])
      · rintro rfl
        rw [hsince.now_sub]
        exact hpurges before [] rfl
  · rintro (⟨he, htime⟩ | ⟨⟨before, hsince, hpurges⟩, hne, hlive⟩)
    · exact ⟨[], .inl ⟨rfl, he, htime⟩, fun first rest heq ↦ by simp at heq⟩
    · refine ⟨before ++ [e], .inr ⟨before, rfl, hsince, hne⟩, fun first rest heq ↦ ?_⟩
      rcases split_concat_iff.1 heq with ⟨rfl, rfl, he⟩ | ⟨rest, rfl, hrest⟩
      · exact hsince.now_sub ▸ hlive he
      · exact hpurges first rest hrest

/-- What is put is held, and nothing else under its key. -/
theorem held_concat_put {value : Json} {lifetime : Nat} :
    Held (es ++ [.put key value lifetime]) key p ↔ p = ⟨value, lifetime, elapsed es⟩ := by
  rw [held_concat]
  constructor
  · rintro (⟨he, htime⟩ | ⟨-, hne, -⟩)
    · cases p
      cases he
      cases htime
      rfl
    · exact absurd rfl (hne value lifetime)
  · rintro rfl
    exact .inl ⟨rfl, rfl⟩

/-- A purge leaves what is not over. -/
theorem held_concat_purge :
    Held (es ++ [.purge]) key p ↔ Held es key p ∧ (run es).now - p.time < p.lifetime := by
  rw [held_concat]
  simp

/-- All other events leave what is held. -/
theorem held_concat_of_ne (hput : ∀ value lifetime, e ≠ .put key value lifetime)
    (hpurge : e ≠ .purge) : Held (es ++ [e]) key p ↔ Held es key p := by
  rw [held_concat]
  simp [hput, hpurge]

/-! ## What the cache holds -/

/-- **The entries of the cache are what is held.** -/
theorem entries_run (es : List Event) (key : String) (entry : CacheEntry) :
    (run es).cache.entries.get? key = some entry ↔ ∃ p, Held es key p ∧ p.entry = entry := by
  induction es using List.reverseRecOn generalizing entry with
  | nil =>
    constructor
    · exact fun h ↦ nomatch h
    · rintro ⟨p, ⟨after, ⟨⟨before, heq, -⟩, -⟩, -⟩, -⟩
      simp at heq
  | append_singleton es e ih =>
    have hother : (∀ value lifetime, e ≠ .put key value lifetime) → e ≠ .purge →
        (step (run es) e).cache.entries.get? key = (run es).cache.entries.get? key →
        ((run (es ++ [e])).cache.entries.get? key = some entry ↔
          ∃ p, Held (es ++ [e]) key p ∧ p.entry = entry) := by
      intro hput hpurge hsame
      rw [run_concat, hsame, ih]
      exact exists_congr fun p ↦ and_congr_left' (held_concat_of_ne hput hpurge).symm
    cases e with
    | put key' value lifetime =>
      by_cases hkey : key = key'
      · subst hkey
        have hget : (step (run es) (.put key value lifetime)).cache.entries.get? key =
            some (Put.entry ⟨value, lifetime, elapsed es⟩) := by
          rw [← now_run]
          exact Keyed.get?_put_self
        simp only [run_concat, hget, held_concat_put, exists_eq_left, Option.some.injEq]
      · exact hother (by simp [Ne.symm hkey]) (by simp) (Keyed.get?_put_of_ne hkey)
    | get decode key' => exact hother (by simp) (by simp) rfl
    | advance ns => exact hother (by simp) (by simp) rfl
    | purge =>
      have hget : (step (run es) .purge).cache.entries.get? key =
          ((run es).cache.entries.get? key).filter (·.isLive (run es).now) := entries_purge
      simp only [run_concat, hget, held_concat_purge, Option.filter_eq_some_iff, ih]
      constructor
      · rintro ⟨⟨p, hheld, rfl⟩, hlive⟩
        exact ⟨p, ⟨hheld, isLive_iff.1 hlive⟩, rfl⟩
      · rintro ⟨p, ⟨hheld, hlive⟩, rfl⟩
        exact ⟨⟨p, hheld, rfl⟩, isLive_iff.2 hlive⟩

/-- The number of keys under which something is held. -/
theorem encard_held (es : List Event) :
    {key | ∃ p, Held es key p}.encard = (run es).cache.size := by
  have hkeys : {key | ∃ p, Held es key p} =
      {key | ∃ entry, (run es).cache.entries.get? key = some entry} := by
    ext key
    simp [entries_run]
  rw [hkeys, Keyed.encard_keys]
  rfl

/-! ## Purges -/

/-- What is left by a purge, and what is taken out. -/
theorem entries_purge_run (es : List Event) (key : String) (entry : CacheEntry) :
    ((run es).cache.purge (run es).now).2.entries.get? key = some entry ↔
      ∃ p, Held es key p ∧ (run es).now - p.time < p.lifetime ∧ p.entry = entry := by
  have hpurged : ((run es).cache.purge (run es).now).2 = (run (es ++ [.purge])).cache := by
    rw [run_concat]
    rfl
  simp only [hpurged, entries_run, held_concat_purge, and_assoc]

/-- A purge counts what is over. -/
theorem fst_purge_run (es : List Event) : (((run es).cache.purge (run es).now).1 : ℕ∞) =
    {key | ∃ p, Held es key p ∧ p.lifetime ≤ (run es).now - p.time}.encard := by
  have hcount : ((run es).cache.purge (run es).now).1 =
      ((run es).cache.entries.keep fun _ entry ↦ !entry.isLive (run es).now).size :=
    Keyed.size_sub_size_keep _ _
  have hkeys : {key | ∃ p, Held es key p ∧ p.lifetime ≤ (run es).now - p.time} =
      {key | ∃ entry, ((run es).cache.entries.keep
        fun _ entry ↦ !entry.isLive (run es).now).get? key = some entry} := by
    ext key
    simp only [Set.mem_ofPred_eq, Keyed.get?_keep, Option.filter_eq_some_iff, entries_run,
      Bool.not_eq_true', isLive_eq_false_iff]
    constructor
    · rintro ⟨p, hheld, hover⟩
      exact ⟨p.entry, ⟨p, hheld, rfl⟩, hover⟩
    · rintro ⟨entry, ⟨p, hheld, rfl⟩, hover⟩
      exact ⟨p, hheld, hover⟩
  rw [hcount, hkeys, Keyed.encard_keys]

/-- Two caches at one time in which the same can be found, now and later. -/
structure Alike (s s' : Clocked) : Prop where
  now_eq : s.now = s'.now
  live : ∀ key, (s.cache.entries.get? key).filter (·.isLive s.now) =
    (s'.cache.entries.get? key).filter (·.isLive s'.now)

namespace Alike

variable {s s' : Clocked}

theorem refl (s : Clocked) : Alike s s := ⟨rfl, fun _ ↦ rfl⟩

theorem answerAt_eq (h : Alike s s') (e : Event) : answerAt s e = answerAt s' e := by
  cases e with
  | get decode key => simp only [answerAt, get?, h.live key]
  | put | purge | advance => rfl

/-- A purge is not noticed. -/
theorem purge_left (h : Alike s s') : Alike (step s .purge) s' where
  now_eq := h.now_eq
  live key := by
    rw [← h.live key]
    exact (congrArg _ entries_purge).trans (filter_isLive_filter (Nat.le_refl _) _)

/-- What is not noticed now is not noticed later. -/
theorem step_both (h : Alike s s') {e : Event} (he : e.isPurge = false) :
    Alike (step s e) (step s' e) where
  now_eq := by rw [now_step, now_step, h.now_eq]
  live key := by
    cases e with
    | put key' value lifetime =>
      by_cases hkey : key = key'
      · subst hkey
        simp only [step, put, Keyed.get?_put_self, h.now_eq]
      · simp only [step, put, Keyed.get?_put_of_ne hkey, h.live key]
    | get decode key' => exact h.live key
    | purge => cases he
    | advance ns =>
      have hlater := congrArg (Option.filter (·.isLive (s.now + ns))) (h.live key)
      rw [h.now_eq, filter_isLive_filter (Nat.le_add_right _ _),
        filter_isLive_filter (Nat.le_add_right _ _)] at hlater
      simp only [step, h.now_eq, hlater]

/-- **No look-up notices the purges before it.** -/
theorem answers_eq (h : Alike s s') (es : List Event) :
    answers s es = answers s' (withoutPurges es) := by
  induction es generalizing s s' with
  | nil => rfl
  | cons e es ih =>
    cases e with
    | purge => exact ih h.purge_left
    | put | get | advance => exact congrArg₂ (· ++ ·) (h.answerAt_eq _) (ih (h.step_both rfl))

end Alike

/-! ## The cache as a map -/

/-- What may be relied on after some events. -/
structure ExpiringMap (es : List Event) : Prop where
  /-- A look-up finds what was put last under its key, if the time of that is not over and it can be
  read, and else nothing. -/
  finds : ∀ {α : Type} (decode : Decoder α) (key : String) (a : α),
    (run es).cache.get? decode (run es).now key = some a ↔
      ∃ p, LatestPut es key p ∧ (run es).now - p.time < p.lifetime ∧
        decode.parse p.value.render = .ok a
  /-- Look-ups answer the same however many purges there are, and wherever. -/
  unnoticed : ∀ es', withoutPurges es' = withoutPurges es → answers start es' = answers start es
  /-- The cache holds what was put last and was not purged since. -/
  holds : ∀ key entry, (run es).cache.entries.get? key = some entry ↔
    ∃ p, Held es key p ∧ p.entry = entry
  /-- A purge leaves of this what is not over. -/
  leaves : ∀ key entry, ((run es).cache.purge (run es).now).2.entries.get? key = some entry ↔
    ∃ p, Held es key p ∧ (run es).now - p.time < p.lifetime ∧ p.entry = entry
  /-- It counts what is over. -/
  removes : (((run es).cache.purge (run es).now).1 : ℕ∞) =
    {key | ∃ p, Held es key p ∧ p.lifetime ≤ (run es).now - p.time}.encard
  size : ((run es).cache.size : ℕ∞) = {key | ∃ p, Held es key p}.encard

/-- **A cache is a map whose entries expire, and nobody notices when they are taken out.** -/
theorem expiring_map (es : List Event) : ExpiringMap es where
  finds decode key a := by
    simp only [get?_eq_some_iff, entries_run]
    constructor
    · rintro ⟨entry, ⟨p, hheld, rfl⟩, hlive, hparse⟩
      exact ⟨p, (held_iff_of_lt hlive).1 hheld, hlive, hparse⟩
    · rintro ⟨p, hlatest, hlive, hparse⟩
      exact ⟨p.entry, ⟨p, (held_iff_of_lt hlive).2 hlatest, rfl⟩, hlive, hparse⟩
  unnoticed es' hes := by
    rw [(Alike.refl start).answers_eq es', (Alike.refl start).answers_eq es, hes]
  holds := entries_run es
  leaves := entries_purge_run es
  removes := fst_purge_run es
  size := (encard_held es).symm

/-- A value that is put again lasts as long as was said last. -/
example : answers start [.put "key" (.int 1) 9, .put "key" (.int 2) 5, .advance 4,
    .get Draft.asInt "key", .get Draft.asBool "key", .advance 1, .get Draft.asInt "key"] =
    [⟨Int, some 2⟩, ⟨Bool, none⟩, ⟨Int, none⟩] := rfl

end Cache

end Microblog
