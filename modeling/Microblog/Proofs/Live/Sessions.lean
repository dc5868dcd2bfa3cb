import Microblog.Proofs.Live.Station

/-!
# What happens to one session

A session sees little of what happens around its broker.

* What is seen of a run is read off the stations that it goes through: the frames that a session
  yields, and what a mailbox accepts, which is what it holds more afterwards (`Station.frames`,
  `Station.accepted`).
* An event that is about another session, or about none, leaves the mailbox of a session alone, but
  for what it accepts (`Station.Sound.spares`, `Station.Sound.pendingOf_step`).
* So an event means one of a few things to a session (`Station.Meets`, `Station.Sound.meets`).
-/

set_option autoImplicit false

namespace Microblog

namespace Station

variable {s : Station} {i j m : Nat} {r : Int} {e : Event} {α : Type}

/-! ## What is seen of a run -/

/-- What the session with the number `i` yields when something happens. -/
def yieldedAt (i : Nat) (s : Station) : Event → List Yield
  | .next j first => if j = i then (s.ask j first).1.toList else []
  | _ => []

/-- What a mailbox accepts when something happens: what it holds more afterwards. -/
def acceptedAt (m : Nat) (s : Station) (e : Event) : List Notification :=
  ((s.step e).broker.pendingOf m).drop (s.broker.pendingOf m).length

/-- What comes of some events, one after the other. -/
def trace (out : Station → Event → List α) : Station → List Event → List α
  | _, [] => []
  | s, e :: es => out s e ++ trace out (s.step e) es

/-- The frames that the session with the number `i` yields during some events, in order. -/
def frames (i : Nat) : Station → List Event → List Frame :=
  trace fun s e ↦ Session.frames (s.yieldedAt i e)

/-- What a mailbox accepts during some events, in order. -/
def accepted (m : Nat) : Station → List Event → List Notification := trace (acceptedAt m)

theorem run_append (es es' : List Event) : s.run (es ++ es') = (s.run es).run es' :=
  List.foldl_append

theorem run_concat (es : List Event) (e : Event) : s.run (es ++ [e]) = (s.run es).step e :=
  run_append es [e]

theorem trace_append (out : Station → Event → List α) (es es' : List Event) :
    trace out s (es ++ es') = trace out s es ++ trace out (s.run es) es' := by
  induction es generalizing s with
  | nil => rfl
  | cons e es ih =>
    rw [List.cons_append, trace, trace, ih, List.append_assoc]
    rfl

theorem trace_concat (out : Station → Event → List α) (es : List Event) (e : Event) :
    trace out s (es ++ [e]) = trace out s es ++ out (s.run es) e := by
  rw [trace_append, trace, trace, List.append_nil]

/-! ## What an event means to a session -/

/-- The session that an event is about, if it is about one. -/
def Event.session? : Event → Option Nat
  | .next i _ | .close i | .drop i => some i
  | .start .. | .direct _ | .advance _ | .shutdown => none

/-- Asking a session does nothing, or what a session can do. -/
theorem ask_eq_or (s : Station) (i : Nat) (first : Wake) :
    s.ask i first = (none, s) ∨ ∃ session y session' broker,
      s.sessions.get? i = some session ∧
      session.Next s.now s.isStopping s.broker y session' broker ∧
      s.ask i first = (some y, { s with sessions := s.sessions.put i session', broker }) := by
  rw [ask]
  split
  · exact .inl rfl
  · rename_i session hget
    split
    · rename_i y session' broker hnext
      exact .inr ⟨session, y, session', broker, hget, Session.next_of_nextFrom hnext, rfl⟩
    · exact .inl rfl

/-- The broker, after at most one event that is about no mailbox of the session with the number
`i`. -/
inductive Spares (s : Station) (i : Nat) : Broker → Prop where
  | same : Spares s i s.broker
  | event (e : Broker.Event) (hne : ∀ r m, s.Holds i r m → e.mailbox? ≠ some m) :
      Spares s i (s.broker.step e)

theorem Sound.spares_of_holds (h : s.Sound) (hij : j ≠ i) (hheld : s.Holds j r m)
    (e : Broker.Event) (he : e.mailbox? = some m) : s.Spares i (s.broker.step e) := by
  refine .event e fun r' m' hheld' he' ↦ hij ?_
  obtain rfl : m = m' := Option.some.inj (he.symm.trans he')
  exact h.ledger.alone hheld hheld'

theorem Sound.spares_close (h : s.Sound) (hij : j ≠ i) {session : Session}
    (hget : s.sessions.get? j = some session) : s.Spares i (session.close s.broker).2 := by
  by_cases hstate : ∃ m, session.state = .streaming (some m)
  · obtain ⟨m, hstate⟩ := hstate
    rw [Session.close_of_streaming hstate]
    exact h.spares_of_holds hij ⟨session, hget, rfl, hstate⟩ (.drop m) rfl
  · rw [Session.close_of_not_streaming (not_exists.1 hstate)]
    exact .same

theorem Sound.spares_directly (h : s.Sound) (e : Broker.Event) (i : Nat) :
    s.Spares i (s.directly e).broker := by
  by_cases he : ∃ r, e = .subscribe r
  · obtain ⟨r, rfl⟩ := he
    rw [Station.directly]
    split
    · rename_i m broker hsubscribe
      have hstep : broker = s.broker.step (.subscribe r) := by
        simp only [Broker.step, hsubscribe]
      exact hstep ▸ .event (.subscribe r) (by simp [Broker.Event.mailbox?])
    · exact .same
  · rw [directly_of_ne (not_exists.1 he)]
    split
    · rename_i howned
      exact .event e fun r m hheld hm ↦ h.ledger.apart hheld (howned m hm)
    · exact .same

/-- What happens to the others, or to nobody, leaves a session its mailbox. -/
theorem Sound.spares (h : s.Sound) (he : e.session? ≠ some i) : s.Spares i (s.step e).broker := by
  have hne : ∀ {j}, e.session? = some j → j ≠ i := fun hj hi ↦ he (hi ▸ hj)
  cases e with
  | start r milliseconds =>
    rw [step_start]
    split <;> exact .same
  | next j first =>
    show s.Spares i (s.ask j first).2.broker
    obtain hask | ⟨session, y, session', broker, hget, hnext, hask⟩ := s.ask_eq_or j first
    · rw [hask]
      exact .same
    · rw [hask]
      cases hnext with
      | finished | refused | lost | pinged | waits => exact .same
      | connected => exact .event (.subscribe _) (by simp [Broker.Event.mailbox?])
      | stopped hstate | cutOff hstate =>
        exact h.spares_of_holds (hne rfl) ⟨session, hget, rfl, hstate⟩ (.drop _) rfl
      | told hstate =>
        exact h.spares_of_holds (hne rfl) ⟨session, hget, rfl, hstate⟩ (.receive _) rfl
  | close j =>
    rw [step_close]
    split
    · rename_i session hget
      exact h.spares_close (hne rfl) hget
    · exact .same
  | drop j =>
    rw [step_drop]
    split
    · rename_i session hget
      exact h.spares_close (hne rfl) hget
    · exact .same
  | direct e => exact h.spares_directly e i
  | advance | shutdown => exact .same

theorem Sound.mailbox (h : s.Sound) (hheld : s.Holds i r m) :
    s.broker.Opened m ∧ ∃ box, s.broker.mailboxes.get? m = some box ∧ box.isOpen = true := by
  have hopen := h.ledger.registered hheld
  have hlt := h.ledger.sound.lt_opened hopen
  obtain ⟨box, hbox, -, hboxOpen⟩ := (h.ledger.sound.listed _ _).1 hopen
  exact ⟨⟨h.ledger.sound, h.ledger.fits (Nat.zero_lt_of_lt hlt), hlt⟩, box, hbox, hboxOpen⟩

/-- Nobody else takes anything out of the mailbox of a session. -/
theorem Sound.pendingOf_step (h : s.Sound) (hheld : s.Holds i r m) (he : e.session? ≠ some i) :
    (s.step e).broker.pendingOf m = s.broker.pendingOf m ++ s.acceptedAt m e := by
  obtain ⟨hopened, box, hbox, -⟩ := h.mailbox hheld
  have hspares := h.spares he
  rw [acceptedAt]
  generalize (s.step e).broker = broker at hspares ⊢
  cases hspares with
  | same => rw [List.drop_length, List.append_nil]
  | event e' hne =>
    obtain ⟨box', hbox'⟩ := box.exists_next s.broker.capacity
      fun hcloses ↦ hne r m hheld hcloses.mailbox?
    have hreceived : s.broker.receivedAt m e' = [] := by
      cases e' with
      | receive j => exact if_neg fun hj ↦ hne r m hheld (congrArg some hj)
      | subscribe | publish | unsubscribe | drop => rfl
    have hconserved := hopened.conserved hbox hbox'
    rw [hreceived, List.nil_append] at hconserved
    calc (s.broker.step e').pendingOf m
        = box'.pending := Broker.pendingOf_eq ((hopened.get?_step hbox e').trans hbox')
      _ = box.pending ++ s.broker.acceptedAt m e' := hconserved.symm
      _ = s.broker.pendingOf m ++ s.broker.acceptedAt m e' := by rw [Broker.pendingOf_eq hbox]

/-- What an event means to the session with the number `i`. -/
inductive Meets (s : Station) (i : Nat) (e : Event) : Prop where
  /-- It means nothing, but for what the mailbox accepts. -/
  | stays (hget : (s.step e).sessions.get? i = s.sessions.get? i)
      (hframes : Session.frames (s.yieldedAt i e) = [])
      (hpending : ∀ r m, s.Holds i r m →
        (s.step e).broker.pendingOf m = s.broker.pendingOf m ++ s.acceptedAt m e)
  | starts {session : Session} (hi : i = s.opened) (hnone : s.sessions.get? i = none)
      (hget : (s.step e).sessions.get? i = some session) (hstate : session.state = .connecting)
      (hframes : Session.frames (s.yieldedAt i e) = [])
  | connects {session : Session} (hget : s.sessions.get? i = some session)
      (hstate : session.state = .connecting)
      (hframes : Session.frames (s.yieldedAt i e) = [.connected])
      (hget' : (s.step e).sessions.get? i =
        some { session with state := .streaming (some s.broker.opened) })
      (hbroker : (s.step e).broker = s.broker.step (.subscribe session.recipient))
      (hfits : s.broker.capacity < Broker.tooLarge)
  | pings {session : Session} {m : Nat} (hget : s.sessions.get? i = some session)
      (hstate : session.state = .streaming (some m))
      (hframes : Session.frames (s.yieldedAt i e) = [.ping])
      (hget' : (s.step e).sessions.get? i =
        some { session with deadline := session.nextDeadline s.now })
      (hbroker : (s.step e).broker = s.broker) (hdue : session.isDue s.now = true)
  | hears {session : Session} {m : Nat} {n : Notification}
      (hget : s.sessions.get? i = some session) (hstate : session.state = .streaming (some m))
      (hframes : Session.frames (s.yieldedAt i e) = [.notification n])
      (hget' : (s.step e).sessions.get? i = some session)
      (hpending : s.broker.pendingOf m = n :: (s.step e).broker.pendingOf m)
  /-- The session is closed or dropped. -/
  | ends {session : Session} (hget : s.sessions.get? i = some session)
      (hframes : Session.frames (s.yieldedAt i e) = [])
      (hends : ∀ session', (s.step e).sessions.get? i = some session' →
        session' = { session with state := .closed })

theorem acceptedAt_of_broker_eq (h : (s.step e).broker = s.broker) (m : Nat) :
    s.acceptedAt m e = [] := by
  rw [acceptedAt, h, List.drop_length]

theorem directly_eq (s : Station) (e : Broker.Event) :
    ∃ broker direct, s.directly e = { s with broker, direct } := by
  by_cases he : ∃ r, e = .subscribe r
  · obtain ⟨r, rfl⟩ := he
    rw [directly]
    split <;> exact ⟨_, _, rfl⟩
  · rw [directly_of_ne (not_exists.1 he)]
    split <;> exact ⟨_, _, rfl⟩

/-- The events of the others leave a session as it is, unless it is just opened. -/
theorem get?_step_eq_or (he : e.session? ≠ some i) :
    (s.step e).sessions.get? i = s.sessions.get? i ∨ ∃ session, i = s.opened ∧
      (s.step e).sessions.get? i = some session ∧ session.state = .connecting := by
  have hne : ∀ {j}, e.session? = some j → i ≠ j := fun hj hi ↦ he (hi ▸ hj)
  cases e with
  | start r milliseconds =>
    rw [step_start]
    split
    · rename_i session hstart
      by_cases hi : i = s.opened
      · subst hi
        exact .inr ⟨session, rfl, Keyed.get?_put_self, (Session.of_start hstart).2⟩
      · exact .inl (Keyed.get?_put_of_ne hi)
    · exact .inl rfl
  | next j first =>
    show (s.ask j first).2.sessions.get? i = _ ∨ ∃ session, i = s.opened ∧
      (s.ask j first).2.sessions.get? i = _ ∧ _
    obtain hask | ⟨session, y, session', broker, -, -, hask⟩ := s.ask_eq_or j first
    · rw [hask]
      exact .inl rfl
    · rw [hask]
      exact .inl (Keyed.get?_put_of_ne (hne rfl))
  | close j =>
    rw [step_close]
    split
    · exact .inl (Keyed.get?_put_of_ne (hne rfl))
    · exact .inl rfl
  | drop j =>
    rw [step_drop]
    split
    · exact .inl (Keyed.get?_remove.trans (if_neg (hne rfl)))
    · exact .inl rfl
  | direct e =>
    obtain ⟨broker, direct, hdirectly⟩ := s.directly_eq e
    show (s.directly e).sessions.get? i = _ ∨ _
    rw [hdirectly]
    exact .inl rfl
  | advance | shutdown => exact .inl rfl

theorem opened_le_step (s : Station) (e : Event) : s.opened ≤ (s.step e).opened := by
  cases e with
  | start =>
    rw [step_start]
    split
    · exact Nat.le_succ _
    · exact Nat.le_refl _
  | next j first =>
    show _ ≤ (s.ask j first).2.opened
    obtain hask | ⟨_, _, _, _, -, -, hask⟩ := s.ask_eq_or j first <;> simp [hask]
  | close =>
    rw [step_close]
    split <;> exact Nat.le_refl _
  | drop =>
    rw [step_drop]
    split <;> exact Nat.le_refl _
  | direct e =>
    obtain ⟨broker, direct, hdirectly⟩ := s.directly_eq e
    exact Nat.le_of_eq (congrArg Station.opened hdirectly).symm
  | advance | shutdown => exact Nat.le_refl _

theorem frames_yieldedAt_of_ne (he : e.session? ≠ some i) :
    Session.frames (s.yieldedAt i e) = [] := by
  cases e with
  | next j first =>
    rw [yieldedAt, if_neg fun hj ↦ he (congrArg some hj)]
    rfl
  | start | close | drop | direct | advance | shutdown => rfl

theorem meets_of_step_eq (hstep : s.step e = s) (hframes : Session.frames (s.yieldedAt i e) = []) :
    s.Meets i e := by
  refine .stays (by rw [hstep]) hframes fun r m _ ↦ ?_
  rw [acceptedAt_of_broker_eq (by rw [hstep]), hstep, List.append_nil]

theorem meets_next (s : Station) (i : Nat) (first : Wake) : s.Meets i (.next i first) := by
  have hstep : s.step (.next i first) = (s.ask i first).2 := rfl
  have hyield : s.yieldedAt i (.next i first) = (s.ask i first).1.toList := if_pos rfl
  obtain hask | ⟨session, y, session', broker, hget, hnext, hask⟩ := s.ask_eq_or i first
  · refine meets_of_step_eq (hstep.trans (congrArg Prod.snd hask)) ?_
    rw [hyield, hask]
    rfl
  · have hframes : Session.frames (s.yieldedAt i (.next i first)) = Session.frames [y] := by
      rw [hyield, hask]
      rfl
    have hafter : (s.step (.next i first)).sessions.get? i = some session' := by
      rw [hstep, hask]
      exact Keyed.get?_put_self
    have hbroker : (s.step (.next i first)).broker = broker := by rw [hstep, hask]
    have hends : session' = { session with state := .closed } → ∀ session'',
        (s.step (.next i first)).sessions.get? i = some session'' →
        session'' = { session with state := .closed } :=
      fun hclosed session'' hget'' ↦ (Option.some.inj (hafter.symm.trans hget'')).symm.trans hclosed
    cases hnext with
    | finished | waits =>
      refine .stays (hafter.trans hget.symm) hframes fun r m _ ↦ ?_
      rw [acceptedAt_of_broker_eq hbroker, hbroker, List.append_nil]
    | refused | lost | stopped | cutOff => exact .ends hget hframes (hends rfl)
    | connected hstate hfits => exact .connects hget hstate hframes hafter hbroker hfits
    | pinged hstate hdue => exact .pings hget hstate hframes hafter hbroker hdue
    | told hstate hitem =>
      refine .hears hget hstate hframes hafter ?_
      rw [hbroker]
      exact Broker.pendingOf_of_item hitem

theorem of_step_close {session session' : Session} (hget : s.sessions.get? i = some session)
    (hget' : (s.step (.close i)).sessions.get? i = some session') :
    session' = { session with state := .closed } := by
  have hstep : (s.step (.close i)).sessions =
      s.sessions.put i (session.close s.broker).1 := by
    rw [step_close, hget]
  rw [hstep, Keyed.get?_put_self, Session.fst_close] at hget'
  exact (Option.some.inj hget').symm

theorem get?_step_drop (s : Station) (i : Nat) : (s.step (.drop i)).sessions.get? i = none := by
  rw [step_drop]
  split
  · exact Keyed.get?_remove.trans (if_pos rfl)
  · assumption

/-- **An event means one of a few things to a session.** -/
theorem Sound.meets (h : s.Sound) (i : Nat) (e : Event) : s.Meets i e := by
  by_cases he : e.session? = some i
  · cases e with
    | next j first =>
      cases he
      exact s.meets_next i first
    | close j =>
      cases he
      cases hget : s.sessions.get? i with
      | none => exact meets_of_step_eq (by rw [step_close, hget]) rfl
      | some session => exact .ends hget rfl fun _ hget' ↦ of_step_close hget hget'
    | drop j =>
      cases he
      cases hget : s.sessions.get? i with
      | none => exact meets_of_step_eq (by rw [step_drop, hget]) rfl
      | some session =>
        exact .ends hget rfl fun _ hget' ↦ by
          cases (s.get?_step_drop i).symm.trans hget'
    | start | direct | advance | shutdown => cases he
  · have hframes := frames_yieldedAt_of_ne (s := s) he
    obtain hget | ⟨session, hi, hget, hstate⟩ := get?_step_eq_or (s := s) he
    · exact .stays hget hframes fun r m hheld ↦ h.pendingOf_step hheld he
    · refine .starts hi (Option.eq_none_iff_forall_ne_some.2 fun session hget ↦ ?_) hget hstate
        hframes
      exact Nat.ne_of_lt (h.numbered hget) hi

theorem Sound.broker_opened_le_step (h : s.Sound) (e : Event) :
    s.broker.opened ≤ (s.step e).broker.opened := by
  have hother : e.session? ≠ some (e.session?.getD 0 + 1) := by
    cases e.session? <;> simp
  have hspares := h.spares hother
  generalize (s.step e).broker = broker at hspares ⊢
  cases hspares with
  | same => exact Nat.le_refl _
  | event e' => exact Broker.opened_le_step e'

end Station

end Microblog
