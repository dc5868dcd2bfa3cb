import Mathlib.Data.List.Induction
import Microblog.Proofs.Live.Sessions

/-!
# Heartbeats

A consumer may stall for as long as it likes, and the heartbeats that come due meanwhile do not
bunch up when it is back: `Station.heartbeats`.

* Each ping sets the time at which the next heartbeat is due.  Pings for which this was done are
  `Paced`, and this alone keeps them apart (`Paced.spread`, `Paced.apart`, `Paced.pause`).
* A session is `Station.OnSchedule` when its pings so far are paced, and its deadline is what they
  come to.  Only a ping moves the deadline (`Station.OnSchedule.concat_quiet`), and to just this
  time (`Station.OnSchedule.concat_ping`).
-/

set_option autoImplicit false

namespace Microblog

/-! ## Pings at a pace -/

/-- A ping, as it is taken. -/
structure Beat where
  /-- When the heartbeat was due. -/
  due : Nat
  taken : Nat
deriving DecidableEq, Repr

namespace Beat

variable {period : Nat} {b : Beat}

/-- The ping is taken too late to count as in time. -/
def Late (b : Beat) : Prop := b.due + Session.tolerance < b.taken

instance : Decidable b.Late := inferInstanceAs (Decidable (_ < _))

/-- When the next heartbeat is due. -/
def nextDue (period : Nat) (b : Beat) : Nat :=
  if b.Late then b.taken + period else b.due + period

theorem due_add_le_nextDue (h : b.due ≤ b.taken) : b.due + period ≤ b.nextDue period := by
  rw [nextDue]
  split <;> omega

theorem taken_add_le_nextDue (b : Beat) :
    b.taken + period ≤ b.nextDue period + Session.tolerance := by
  by_cases hlate : b.Late
  · simp [nextDue, hlate]
  · rw [nextDue, if_neg hlate]
    have hinTime : b.taken ≤ b.due + Session.tolerance := Nat.le_of_not_lt hlate
    omega

theorem nextDue_of_late (hlate : b.Late) : b.nextDue period = b.taken + period := if_pos hlate

end Beat

/-- The first of these pings was due at `due`, each other one when the one before it said, and none
was taken before it was due. -/
def Paced (period : Nat) : Nat → List Beat → Prop
  | _, [] => True
  | due, b :: bs => b.due = due ∧ b.due ≤ b.taken ∧ Paced period (b.nextDue period) bs

/-- When the next heartbeat is due after these pings. -/
def dueAfter (period due : Nat) (bs : List Beat) : Nat :=
  bs.foldl (fun _ b ↦ b.nextDue period) due

theorem dueAfter_cons (period due : Nat) (b : Beat) (bs : List Beat) :
    dueAfter period due (b :: bs) = dueAfter period (b.nextDue period) bs := by
  rw [dueAfter, List.foldl_cons, dueAfter]

theorem dueAfter_concat (period due : Nat) (bs : List Beat) (b : Beat) :
    dueAfter period due (bs ++ [b]) = b.nextDue period := by
  rw [dueAfter, List.foldl_concat]

namespace Paced

variable {period due : Nat} {b b' : Beat} {bs : List Beat}

theorem concat_iff : Paced period due (bs ++ [b]) ↔
    Paced period due bs ∧ b.due = dueAfter period due bs ∧ b.due ≤ b.taken := by
  induction bs generalizing due with
  | nil => simp [Paced, dueAfter]
  | cons first bs ih =>
    simp only [List.cons_append, Paced, ih, dueAfter_cons, and_assoc]

/-- Each ping takes one period more. -/
theorem spread (h : Paced period due bs) {n : Nat} (hn : bs[n]? = some b) :
    due + n * period ≤ b.taken := by
  induction bs generalizing due n with
  | nil => cases hn
  | cons first bs ih =>
    obtain ⟨rfl, htaken, hrest⟩ := h
    cases n with
    | zero =>
      obtain rfl : first = b := Option.some.inj hn
      simpa using htaken
    | succ n =>
      have hfirst : first.due + period ≤ first.nextDue period := Beat.due_add_le_nextDue htaken
      have hlater : first.nextDue period + n * period ≤ b.taken := ih hrest hn
      rw [Nat.succ_mul]
      omega

theorem le_taken (h : Paced period due bs) (hb : b ∈ bs) : due ≤ b.taken := by
  obtain ⟨n, hn⟩ := List.getElem?_of_mem hb
  exact Nat.le_of_add_right_le (h.spread hn)

/-- What one ping sets holds for all that come after it. -/
theorem pairwise (h : Paced period due bs) :
    bs.Pairwise fun b b' ↦ b.nextDue period ≤ b'.taken := by
  induction bs generalizing due with
  | nil => exact .nil
  | cons first bs ih =>
    obtain ⟨-, -, hrest⟩ := h
    exact .cons (fun b' hb' ↦ hrest.le_taken hb') (ih hrest)

theorem apart (h : Paced period due bs) :
    bs.Pairwise fun b b' ↦ b.taken + period ≤ b'.taken + Session.tolerance := by
  refine h.pairwise.imp fun {b b'} hnext ↦ ?_
  exact b.taken_add_le_nextDue.trans (Nat.add_le_add_right hnext _)

theorem pause (h : Paced period due bs) :
    bs.Pairwise fun b b' ↦ b.Late → b.taken + period ≤ b'.taken := by
  refine h.pairwise.imp fun {b b'} hnext hlate ↦ ?_
  rwa [Beat.nextDue_of_late hlate] at hnext

end Paced

/-! ## The heartbeat of a session -/

namespace Session

variable {s : Session}

theorem deadline_of_start {now : Nat} {r : Int} {milliseconds : Nat}
    (h : start now r milliseconds = .ok s) :
    s.period = milliseconds * millisecond ∧ s.deadline = now + s.period := by
  rw [start] at h
  split at h
  · cases h
  · cases h
    exact ⟨rfl, rfl⟩

theorem deadline_le_of_isDue {now : Nat} (h : s.isDue now = true) : s.deadline ≤ now :=
  (of_decide_eq_true h).trans (Nat.div_mul_le_self now millisecond)

end Session

namespace Station

variable {s start : Station} {i opened period : Nat} {e : Event} {es : List Event}

/-- The pings that the session with the number `i` yields when something happens. -/
def beatsAt (i : Nat) (s : Station) (e : Event) : List Beat :=
  (Session.frames (s.yieldedAt i e)).filterMap fun f ↦ match f with
    | .ping => (s.sessions.get? i).map fun session ↦ ⟨session.deadline, s.now⟩
    | .connected | .notification _ => none

/-- The pings that the session yields during some events, in order. -/
def beats (i : Nat) : Station → List Event → List Beat := trace (beatsAt i)

theorem beats_concat (es : List Event) (e : Event) : beats i start (es ++ [e]) =
    beats i start es ++ (start.run es).beatsAt i e := trace_concat _ es e

theorem beatsAt_of_quiet (h : .ping ∉ Session.frames (s.yieldedAt i e)) : s.beatsAt i e = [] := by
  refine List.filterMap_eq_nil_iff.2 fun f hf ↦ ?_
  cases f with
  | ping => exact absurd hf h
  | connected | notification => rfl

theorem beatsAt_of_ping {session : Session} (hget : s.sessions.get? i = some session)
    (h : Session.frames (s.yieldedAt i e) = [.ping]) :
    s.beatsAt i e = [⟨session.deadline, s.now⟩] := by
  simp [beatsAt, h, hget]

/-- The session with the number `i`, which was opened at the time `opened`, has kept its heartbeat
to the schedule during some events. -/
structure OnSchedule (start : Station) (i opened period : Nat) (es : List Event) : Prop where
  past : i < (start.run es).opened
  counts : (beats i start es).length = (frames i start es).count .ping
  paced : Paced period (opened + period) (beats i start es)
  deadline : ∀ session, (start.run es).sessions.get? i = some session →
    session.period = period ∧
      session.deadline = dueAfter period (opened + period) (beats i start es)

namespace OnSchedule

theorem past_concat (h : OnSchedule start i opened period es) (e : Event) :
    i < (start.run (es ++ [e])).opened := by
  rw [run_concat]
  exact Nat.lt_of_lt_of_le h.past (opened_le_step _ e)

/-- Without a ping, the schedule stays as it is. -/
theorem concat_quiet (h : OnSchedule start i opened period es)
    (hquiet : .ping ∉ Session.frames ((start.run es).yieldedAt i e))
    (hkept : ∀ session', ((start.run es).step e).sessions.get? i = some session' →
      ∃ session, (start.run es).sessions.get? i = some session ∧
        session'.period = session.period ∧ session'.deadline = session.deadline) :
    OnSchedule start i opened period (es ++ [e]) := by
  have hbeats : beats i start (es ++ [e]) = beats i start es := by
    rw [beats_concat, beatsAt_of_quiet hquiet, List.append_nil]
  refine {
    past := h.past_concat e
    counts := ?_
    paced := hbeats ▸ h.paced
    deadline := fun session' hget' ↦ ?_ }
  · rw [hbeats, h.counts, frames, trace_concat, List.count_append, List.count_eq_zero.2 hquiet]
    rfl
  · rw [run_concat] at hget'
    obtain ⟨session, hget, hperiod, hdeadline⟩ := hkept session' hget'
    rw [hbeats, hperiod, hdeadline]
    exact h.deadline session hget

/-- A ping is taken when it is due, and sets the next heartbeat. -/
theorem concat_ping (h : OnSchedule start i opened period es) {session : Session}
    (hget : (start.run es).sessions.get? i = some session)
    (hyield : Session.frames ((start.run es).yieldedAt i e) = [.ping])
    (hget' : ((start.run es).step e).sessions.get? i =
      some { session with deadline := session.nextDeadline (start.run es).now })
    (hdue : session.isDue (start.run es).now = true) :
    OnSchedule start i opened period (es ++ [e]) := by
  obtain ⟨hperiod, hdeadline⟩ := h.deadline session hget
  have hbeats : beats i start (es ++ [e]) =
      beats i start es ++ [⟨session.deadline, (start.run es).now⟩] := by
    rw [beats_concat, beatsAt_of_ping hget hyield]
  refine {
    past := h.past_concat e
    counts := ?_
    paced := ?_
    deadline := fun session' hfound ↦ ?_ }
  · rw [hbeats, List.length_append, h.counts, frames, trace_concat, hyield, List.count_append]
    rfl
  · rw [hbeats, Paced.concat_iff]
    exact ⟨h.paced, hdeadline, Session.deadline_le_of_isDue hdue⟩
  · rw [run_concat, hget'] at hfound
    obtain rfl := Option.some.inj hfound
    rw [hbeats, dueAfter_concat, ← hperiod]
    exact ⟨rfl, rfl⟩

/-- Whatever happens, the session keeps to the schedule. -/
theorem concat (h : OnSchedule start i opened period es) (hsound : start.Sound) (e : Event) :
    OnSchedule start i opened period (es ++ [e]) := by
  cases (hsound.run es).meets i e with
  | stays hget hyield =>
    refine h.concat_quiet (by simp [hyield]) fun session' hget' ↦ ?_
    exact ⟨session', hget.symm.trans hget', rfl, rfl⟩
  | starts hi => exact absurd hi (Nat.ne_of_lt h.past)
  | connects hget _ hyield hget' | hears hget _ hyield hget' =>
    refine h.concat_quiet (by simp [hyield]) fun session' hfound ↦ ⟨_, hget, ?_⟩
    obtain rfl := Option.some.inj (hget'.symm.trans hfound)
    exact ⟨rfl, rfl⟩
  | pings hget _ hyield hget' _ hdue => exact h.concat_ping hget hyield hget' hdue
  | ends hget hyield hends =>
    refine h.concat_quiet (by simp [hyield]) fun session' hfound ↦ ⟨_, hget, ?_⟩
    rw [hends session' hfound]
    exact ⟨rfl, rfl⟩

/-- A session starts on schedule, and keeps to it. -/
theorem of_start {r : Int} {milliseconds : Nat} {session : Session} (hsound : s.Sound)
    (hstart : Session.start s.now r milliseconds = .ok session) (es : List Event) :
    OnSchedule (s.step (.start r milliseconds)) s.opened s.now session.period es := by
  induction es using List.reverseRecOn with
  | nil =>
    rw [step_start, hstart]
    refine {
      past := Nat.lt_succ_self _
      counts := rfl
      paced := trivial
      deadline := fun session' hget ↦ ?_ }
    obtain rfl := Option.some.inj (Keyed.get?_put_self.symm.trans hget)
    exact ⟨rfl, (Session.deadline_of_start hstart).2⟩
  | append_singleton es e ih => exact ih.concat (hsound.step _) e

end OnSchedule

/-- A session that has nothing else to do is woken by its heartbeat only, whatever it looks at
first. -/
theorem Sound.ask_of_idle (h : s.Sound) {session : Session} {m : Nat}
    (hget : s.sessions.get? i = some session) (hstate : session.state = .streaming (some m))
    (hstop : s.isStopping = false) (hpending : s.broker.pendingOf m = []) (first : Wake) :
    (s.ask i first).1 =
      some (if session.isDue s.now then .frame .ping else .pending) := by
  obtain ⟨-, box, hbox, hopen⟩ := h.mailbox ⟨session, hget, rfl, hstate⟩
  have hreceive : s.broker.receive m = (.pending, s.broker) := by
    rw [Broker.pendingOf_eq hbox] at hpending
    simp [Broker.receive, hbox, hpending, hopen]
  have hnext : session.nextFrom first s.now s.isStopping s.broker =
      .ok (if session.isDue s.now
        then (.frame .ping, { session with deadline := session.nextDeadline s.now }, s.broker)
        else (.pending, session, s.broker)) := by
    simp only [Session.nextFrom, hstate]
    by_cases hdue : session.isDue s.now = true
    · cases first <;> simp [Wake.order, Session.wokenBy, hstop, hreceive, hdue, hstate]
    · cases first <;> simp [Wake.order, Session.wokenBy, hstop, hreceive, hdue]
  simp only [ask, hget, hnext]
  split <;> rfl

/-- What the heartbeat of a session may be relied on for, if it is opened at the time `opened` and
then these events happen. -/
structure Heartbeats (start : Station) (i opened period : Nat) (es : List Event) : Prop where
  /-- The beats are the pings that the session yields. -/
  counts : (beats i start es).length = (frames i start es).count .ping
  /-- No ping comes early: each takes one period more. -/
  spread : ∀ n b, (beats i start es)[n]? = some b → opened + (n + 1) * period ≤ b.taken
  /-- Two pings are a period apart, but for the tolerance. -/
  apart : (beats i start es).Pairwise fun b b' ↦
    b.taken + period ≤ b'.taken + Session.tolerance
  /-- After a ping that was taken late there is none for a full period. -/
  pause : (beats i start es).Pairwise fun b b' ↦ b.Late → b.taken + period ≤ b'.taken
  /-- The first ping is due a period after the session was opened, and each other one a period after
  the one before it: after it was due, or after it was taken, if that was late. -/
  paced : Paced period (opened + period) (beats i start es)
  /-- A session that has nothing else to do yields a ping if the clock shows a whole millisecond
  that is not before the next heartbeat, and nothing before that. -/
  answers : ∀ session m first, (start.run es).sessions.get? i = some session →
    session.state = .streaming (some m) → (start.run es).isStopping = false →
    (start.run es).broker.pendingOf m = [] →
    ((start.run es).ask i first).1 = some
      (if dueAfter period (opened + period) (beats i start es) ≤
          (start.run es).now / Session.millisecond * Session.millisecond
        then .frame .ping else .pending)

/-- **Heartbeats never bunch up**, whatever happens, and however long nobody takes a frame. -/
theorem heartbeats (capacity : Nat) (before : List Event) (r : Int) (milliseconds : Nat)
    (session : Session)
    (hstart : Session.start ((new capacity).run before).now r milliseconds = .ok session)
    (es : List Event) :
    Heartbeats (((new capacity).run before).step (.start r milliseconds))
      ((new capacity).run before).opened ((new capacity).run before).now
      (milliseconds * Session.millisecond) es := by
  have hsound := (sound_new capacity).run before
  have h := OnSchedule.of_start hsound hstart es
  rw [(Session.deadline_of_start hstart).1] at h
  refine {
    counts := h.counts
    spread := fun n b hn ↦ ?_
    apart := h.paced.apart
    pause := h.paced.pause
    paced := h.paced
    answers := fun session m first hget hstate hstop hpending ↦ ?_ }
  · have hspread := h.paced.spread hn
    rw [Nat.succ_mul]
    omega
  · have hsound' := (hsound.step (.start r milliseconds)).run es
    rw [hsound'.ask_of_idle hget hstate hstop hpending first, Session.isDue,
      (h.deadline session hget).2]
    simp

/-- The consumer takes one ping 4 ms late, which is in time, and then sleeps through two. -/
def stalled : List Event :=
  [.next 0 .shutdown, .advance (1004 * Session.millisecond), .next 0 .heartbeat,
    .advance (996 * Session.millisecond), .next 0 .heartbeat,
    .advance (2500 * Session.millisecond), .next 0 .heartbeat, .next 0 .heartbeat,
    .advance (999 * Session.millisecond), .next 0 .heartbeat,
    .advance Session.millisecond, .next 0 .mailbox]

/-- There is one ping for the two, and the next one comes after a full second. -/
theorem heartbeats_stalled :
    Session.start ((new 10).run []).now 1 1000 =
      .ok ⟨1, 1000000000, 1000000000, .connecting⟩ ∧
    Heartbeats (((new 10).run []).step (.start 1 1000)) 0 0 1000000000 stalled ∧
    beats 0 (((new 10).run []).step (.start 1 1000)) stalled =
      [⟨1000000000, 1004000000⟩, ⟨2000000000, 2000000000⟩, ⟨3000000000, 4500000000⟩,
        ⟨5500000000, 5500000000⟩] := by
  have hstart : Session.start ((new 10).run []).now 1 1000 =
      .ok ⟨1, 1000000000, 1000000000, .connecting⟩ := by decide +kernel
  exact ⟨hstart, heartbeats 10 [] 1 1000 _ hstart stalled, by decide +kernel⟩

end Station

end Microblog
