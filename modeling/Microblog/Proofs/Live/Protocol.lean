import Mathlib.Data.List.Induction
import Mathlib.Data.List.Perm.Basic
import Microblog.Proofs.Live.Sessions

/-!
# The protocol of a session

`Station.Protocol` is what the sessions around a broker may be relied on for, whatever happens to
them in whichever order, and `Station.protocol` says that it holds after every run.

* What a session has yielded is told by `Station.Story`: nothing, or the frame that says that it is
  connected, and then pings and what its mailbox accepted.  A story goes on with each event
  (`Station.Story.concat`).
* The registry has as many entries as there are holders, as both list the same mailboxes
  (`Station.Sound.subscriberCount_eq`).
* What is over stays over (`Station.Over.run`).
-/

set_option autoImplicit false

namespace Microblog

namespace SessionState

/-- A session in the first state can get into the second one by one event. -/
inductive Leads : SessionState → SessionState → Prop where
  | stays (st : SessionState) : Leads st st
  | connects (m : Nat) : Leads .connecting (.streaming (some m))
  | closes (st : SessionState) : Leads st .closed

def isStreaming : SessionState → Bool
  | .streaming _ => true
  | .connecting | .closed => false

/-- The mailbox of a session. -/
def mailbox? : SessionState → Option Nat
  | .streaming m => m
  | .connecting | .closed => none

theorem mailbox?_eq_some_iff {st : SessionState} {m : Nat} :
    st.mailbox? = some m ↔ st = .streaming (some m) := by
  cases st <;> simp [mailbox?]

end SessionState

/-- The notifications among some frames. -/
def Frame.notifications (fs : List Frame) : List Notification :=
  fs.filterMap fun f ↦ match f with
    | .notification n => some n
    | .connected | .ping => none

theorem Frame.notifications_append (fs fs' : List Frame) :
    notifications (fs ++ fs') = notifications fs ++ notifications fs' := List.filterMap_append

namespace Station

variable {s start : Station} {i m : Nat} {r : Int} {e : Event} {es : List Event}

/-! ## What a session has yielded -/

/-- At the start, during some events or after them, the session with the number `i` had the
mailbox `m`. -/
def Held (i m : Nat) (s : Station) (es : List Event) : Prop :=
  ∃ before, before <+: es ∧ ∃ r, (s.run before).Holds i r m

theorem held_concat : Held i m s (es ++ [e]) ↔
    Held i m s es ∨ ∃ r, ((s.run es).step e).Holds i r m := by
  simp only [Held, List.prefix_concat_iff, or_and_right, exists_or, exists_eq_left, run_concat]
  exact or_comm

/-- The session with the number `i` has connected, with the mailbox `m`, and has yielded `rest`
since. -/
structure Connected (start : Station) (i : Nat) (es : List Event) (m : Nat) (rest : List Frame) :
    Prop where
  frames : frames i start es = .connected :: rest
  once : .connected ∉ rest
  held : ∀ m', Held i m' start es ↔ m' = m
  inOrder : Frame.notifications rest <+: accepted m start es
  /-- As long as it streams, what its mailbox accepted and it did not yield is pending. -/
  balance : ∀ r, (start.run es).Holds i r m →
    accepted m start es = Frame.notifications rest ++ (start.run es).broker.pendingOf m
  /-- It will not connect again. -/
  past : i < (start.run es).opened ∧
    ∀ session, (start.run es).sessions.get? i = some session → session.state ≠ .connecting

/-- What the session with the number `i` has yielded: nothing, or that it is connected, and then
pings and what its mailbox accepted. -/
inductive Story (start : Station) (i : Nat) (es : List Event) : Prop where
  | silent (hframes : frames i start es = []) (hheld : ∀ m, ¬Held i m start es)
  | connected {m : Nat} {rest : List Frame} (h : Connected start i es m rest)

theorem frames_concat (es : List Event) (e : Event) : frames i start (es ++ [e]) =
    frames i start es ++ Session.frames ((start.run es).yieldedAt i e) := trace_concat _ es e

theorem accepted_concat (es : List Event) (e : Event) : accepted m start (es ++ [e]) =
    accepted m start es ++ (start.run es).acceptedAt m e := trace_concat _ es e

theorem held_of_holds (h : (start.run es).Holds i r m) : Held i m start es :=
  ⟨es, List.prefix_rfl, r, h⟩

/-- A session that opens no mailbox has had none but those that it has had before. -/
theorem held_concat_of_holds
    (hholds : ∀ r m, ((start.run es).step e).Holds i r m → (start.run es).Holds i r m) (m : Nat) :
    Held i m start (es ++ [e]) ↔ Held i m start es :=
  held_concat.trans (or_iff_left_of_imp fun ⟨r, h⟩ ↦ held_of_holds (hholds r m h))

theorem Story.concat_silent (hframes : frames i start es = []) (hheld : ∀ m, ¬Held i m start es)
    (hyield : Session.frames ((start.run es).yieldedAt i e) = [])
    (hholds : ∀ r m, ((start.run es).step e).Holds i r m → (start.run es).Holds i r m) :
    Story start i (es ++ [e]) := by
  refine .silent ?_ fun m hm ↦ hheld m ((held_concat_of_holds hholds m).1 hm)
  rw [frames_concat, hframes, hyield, List.append_nil]

/-- The story of a connected session goes on. -/
theorem Connected.concat {rest fs : List Frame} (h : Connected start i es m rest)
    (hyield : Session.frames ((start.run es).yieldedAt i e) = fs) (hfs : .connected ∉ fs)
    (hholds : ∀ r m, ((start.run es).step e).Holds i r m → (start.run es).Holds i r m)
    (hyielded : Frame.notifications (rest ++ fs) <+: accepted m start (es ++ [e]))
    (hbalance : ∀ r, ((start.run es).step e).Holds i r m → accepted m start (es ++ [e]) =
      Frame.notifications (rest ++ fs) ++ ((start.run es).step e).broker.pendingOf m)
    (hpast : ∀ session, ((start.run es).step e).sessions.get? i = some session →
      session.state ≠ .connecting) :
    Connected start i (es ++ [e]) m (rest ++ fs) where
  frames := by rw [frames_concat, h.frames, hyield, List.cons_append]
  once hmem := (List.mem_append.1 hmem).elim h.once hfs
  held m' := (held_concat_of_holds hholds m').trans (h.held m')
  inOrder := hyielded
  balance r hheld := by
    rw [run_concat] at hheld ⊢
    exact hbalance r hheld
  past := by
    rw [run_concat]
    exact ⟨Nat.lt_of_lt_of_le h.past.1 (opened_le_step _ _), hpast⟩

theorem not_holds_of_connecting {session : Session} (hget : s.sessions.get? i = some session)
    (hstate : session.state = .connecting) (r : Int) (m : Nat) : ¬s.Holds i r m := by
  rw [holds_of_get? hget, hstate]
  exact fun h ↦ nomatch h.2

/-- No mailbox accepts anything before it is opened. -/
theorem accepted_eq_nil (hsound : start.Sound) (hm : (start.run es).broker.opened ≤ m) :
    accepted m start es = [] := by
  induction es using List.reverseRecOn with
  | nil => rfl
  | append_singleton es e ih =>
    rw [run_concat] at hm
    have hpending : ((start.run es).step e).broker.pendingOf m = [] :=
      ((hsound.run es).step e).ledger.sound.pendingOf_eq_nil hm
    rw [accepted_concat, ih (Nat.le_trans ((hsound.run es).broker_opened_le_step e) hm), acceptedAt,
      hpending]
    exact List.drop_nil

/-- The story of a session begins when it connects. -/
theorem connected_of_connects (hsound : start.Sound) (hframes : frames i start es = [])
    (hheld : ∀ m, ¬Held i m start es) {session : Session}
    (hget : (start.run es).sessions.get? i = some session)
    (hyield : Session.frames ((start.run es).yieldedAt i e) = [.connected])
    (hget' : ((start.run es).step e).sessions.get? i =
      some { session with state := .streaming (some (start.run es).broker.opened) })
    (hbroker : ((start.run es).step e).broker =
      (start.run es).broker.step (.subscribe session.recipient))
    (hfits : (start.run es).broker.capacity < Broker.tooLarge) :
    Connected start i (es ++ [e]) (start.run es).broker.opened [] := by
  have hpending : ((start.run es).step e).broker.pendingOf (start.run es).broker.opened = [] := by
    rw [hbroker, Broker.step_subscribe hfits, Broker.pendingOf_eq (Broker.get?_register _ _)]
  have haccepted : accepted (start.run es).broker.opened start (es ++ [e]) = [] := by
    rw [accepted_concat, accepted_eq_nil hsound (Nat.le_refl _), acceptedAt, hpending]
    exact List.drop_nil
  refine ⟨?_, List.not_mem_nil, fun m' ↦ ?_, List.nil_prefix, fun r _ ↦ ?_, ?_⟩
  · rw [frames_concat, hframes, hyield, List.nil_append]
  · rw [held_concat, or_iff_right (hheld m')]
    constructor
    · rintro ⟨r, hholds⟩
      have hstate := ((holds_of_get? hget').1 hholds).2
      cases hstate
      rfl
    · rintro rfl
      exact ⟨session.recipient, (holds_of_get? hget').2 ⟨rfl, rfl⟩⟩
  · rw [haccepted, run_concat, hpending]
    rfl
  · rw [run_concat]
    refine ⟨Nat.lt_of_lt_of_le ((hsound.run es).numbered hget) (opened_le_step _ _),
      fun session' hsession' ↦ ?_⟩
    obtain rfl := Option.some.inj (hget'.symm.trans hsession')
    simp

/-- A connected session goes on while it streams. -/
theorem Connected.concat_streaming {rest fs : List Frame} {session session' : Session} {m' : Nat}
    (h : Connected start i es m rest) (hget : (start.run es).sessions.get? i = some session)
    (hstate : session.state = .streaming (some m'))
    (hyield : Session.frames ((start.run es).yieldedAt i e) = fs) (hfs : .connected ∉ fs)
    (hget' : ((start.run es).step e).sessions.get? i = some session')
    (hrecipient : session'.recipient = session.recipient) (hstate' : session'.state = session.state)
    (hbalance : (start.run es).broker.pendingOf m' ++ (start.run es).acceptedAt m' e =
      Frame.notifications fs ++ ((start.run es).step e).broker.pendingOf m') :
    Connected start i (es ++ [e]) m (rest ++ fs) := by
  have hheld : (start.run es).Holds i session.recipient m' := ⟨session, hget, rfl, hstate⟩
  obtain rfl : m' = m := (h.held m').1 (held_of_holds hheld)
  have haccepted : accepted m' start (es ++ [e]) = Frame.notifications (rest ++ fs) ++
      ((start.run es).step e).broker.pendingOf m' := by
    rw [accepted_concat, h.balance _ hheld, List.append_assoc, hbalance, ← List.append_assoc,
      ← Frame.notifications_append]
  refine h.concat hyield hfs (fun r m hholds ↦ ?_) (haccepted ▸ List.prefix_append _ _)
    (fun _ _ ↦ haccepted) fun session'' hget'' ↦ ?_
  · rw [holds_of_get? hget', hrecipient, hstate'] at hholds
    exact (holds_of_get? hget).2 hholds
  · obtain rfl := Option.some.inj (hget'.symm.trans hget'')
    rw [hstate', hstate]
    simp

/-- **A story goes on with every event.** -/
theorem Story.concat (hsound : start.Sound) (h : Story start i es) (e : Event) :
    Story start i (es ++ [e]) := by
  have hnow := hsound.run es
  cases h with
  | silent hframes hheld =>
    have hnone : ∀ r m, ¬(start.run es).Holds i r m := fun r m h ↦ hheld m (held_of_holds h)
    cases hnow.meets i e with
    | stays hget hyield =>
      refine .concat_silent hframes hheld hyield fun r m hholds ↦ ?_
      rwa [Holds, hget] at hholds
    | starts _ _ hget hstate hyield =>
      exact .concat_silent hframes hheld hyield fun r m hholds ↦
        absurd hholds (not_holds_of_connecting hget hstate r m)
    | connects hget _ hyield hget' hbroker hfits =>
      exact .connected (connected_of_connects hsound hframes hheld hget hyield hget' hbroker hfits)
    | pings hget hstate | hears hget hstate =>
      exact absurd ⟨_, hget, rfl, hstate⟩ (hnone _ _)
    | ends hget hyield hends =>
      refine .concat_silent hframes hheld hyield ?_
      rintro r m ⟨session', hget', -, hstate⟩
      rw [hends session' hget'] at hstate
      cases hstate
  | @connected m rest h =>
    have hyielded : Frame.notifications (rest ++ []) <+: accepted m start (es ++ [e]) := by
      rw [List.append_nil, accepted_concat]
      exact h.inOrder.trans (List.prefix_append _ _)
    cases hnow.meets i e with
    | stays hget hyield hpending =>
      have hholds : ∀ r m, ((start.run es).step e).Holds i r m → (start.run es).Holds i r m := by
        intro r m hholds
        rwa [Holds, hget] at hholds
      refine .connected (h.concat hyield List.not_mem_nil hholds hyielded (fun r hheld ↦ ?_)
        (hget ▸ h.past.2))
      rw [accepted_concat, h.balance r (hholds r m hheld), hpending r m (hholds r m hheld),
        List.append_nil, List.append_assoc]
    | starts hi => exact absurd hi (Nat.ne_of_lt h.past.1)
    | connects hget hstate => exact absurd hstate (h.past.2 _ hget)
    | pings hget hstate hyield hget' hbroker =>
      refine .connected (h.concat_streaming hget hstate hyield (by simp) hget' rfl rfl ?_)
      rw [acceptedAt_of_broker_eq hbroker, hbroker, List.append_nil]
      rfl
    | @hears session m' n hget hstate hyield hget' hpending =>
      refine .connected (h.concat_streaming hget hstate hyield (by simp) hget' rfl rfl ?_)
      have hnothing : (start.run es).acceptedAt m' e = [] := by
        rw [acceptedAt, hpending, List.length_cons]
        exact List.drop_eq_nil_of_le (Nat.le_succ _)
      rw [hnothing, List.append_nil, hpending]
      rfl
    | ends hget hyield hends =>
      refine .connected (h.concat hyield List.not_mem_nil ?_ hyielded ?_ fun session' hget' ↦ ?_)
      · rintro r m' ⟨session', hget', -, hstate⟩
        rw [hends session' hget'] at hstate
        cases hstate
      · rintro r ⟨session', hget', -, hstate⟩
        rw [hends session' hget'] at hstate
        cases hstate
      · rw [hends session' hget']
        simp

theorem story (hsound : start.Sound) (hempty : ∀ i r m, ¬start.Holds i r m) (i : Nat)
    (es : List Event) : Story start i es := by
  induction es using List.reverseRecOn with
  | nil =>
    refine .silent rfl fun m ⟨before, hbefore, r, hholds⟩ ↦ ?_
    rw [List.prefix_nil.1 hbefore] at hholds
    exact hempty i r m hholds
  | append_singleton es e ih => exact ih.concat hsound e

/-! ## Who is registered -/

/-- The number of sessions of a recipient that stream. -/
def streaming (r : Int) (s : Station) : Nat :=
  s.sessions.entries.countP fun entry ↦ entry.2.recipient = r ∧ entry.2.state.isStreaming

/-- Someone who listens for `r` without a session has the mailbox `m` and did not leave. -/
def Listens (s : Station) (r : Int) (m : Nat) : Prop :=
  m ∈ s.direct ∧ (s.broker.mailboxes.get? m).any fun box ↦ box.recipient = r ∧ box.isOpen

instance : Decidable (s.Listens r m) := inferInstanceAs (Decidable (_ ∧ _))

/-- The number of those who listen for a recipient without a session. -/
def listening (r : Int) (s : Station) : Nat := s.direct.countP fun m ↦ s.Listens r m

theorem Sound.mem_openFor (h : s.Sound) (r : Int) (m : Nat) :
    m ∈ s.broker.openFor r ↔ (∃ i, s.Holds i r m) ∨ s.Listens r m := by
  constructor
  · intro hopen
    rcases h.ledger.held hopen with hdirect | ⟨i, r', hheld⟩
    · obtain ⟨box, hbox, hrecipient, hboxOpen⟩ := (h.ledger.sound.listed r m).1 hopen
      exact .inr ⟨hdirect, by simp [hbox, hrecipient, hboxOpen]⟩
    · obtain rfl := h.ledger.sound.recipient_unique hopen (h.ledger.registered hheld)
      exact .inl ⟨i, hheld⟩
  · rintro (⟨i, hheld⟩ | ⟨-, hbox⟩)
    · exact h.ledger.registered hheld
    · obtain ⟨box, hget, hbox⟩ := (Option.any_eq_true _ _).1 hbox
      exact (h.ledger.sound.mem_openFor hget r).2 (by simpa using hbox)

/-- The mailboxes of the sessions of a recipient. -/
def mailboxesOf (r : Int) (s : Station) : List Nat :=
  s.sessions.entries.filterMap fun entry ↦
    if entry.2.recipient = r then entry.2.state.mailbox? else none

theorem holds_iff_mem_entries : s.Holds i r m ↔ ∃ session, (i, session) ∈ s.sessions.entries ∧
    (if session.recipient = r then session.state.mailbox? else none) = some m := by
  simp only [Holds, Keyed.get?_eq_some_iff, Option.ite_none_right_eq_some,
    SessionState.mailbox?_eq_some_iff]

theorem mem_mailboxesOf : m ∈ s.mailboxesOf r ↔ ∃ i, s.Holds i r m := by
  simp only [mailboxesOf, List.mem_filterMap, Prod.exists, holds_iff_mem_entries]

theorem Sound.nodup_mailboxesOf (h : s.Sound) (r : Int) : (s.mailboxesOf r).Nodup := by
  refine List.pairwise_filterMap.2 ((List.pairwise_map.1 s.sessions.nodup).imp_of_mem ?_)
  rintro ⟨i, session⟩ ⟨j, session'⟩ hi hj hne m hm m' hm' rfl
  exact hne (h.ledger.alone (holds_iff_mem_entries.2 ⟨session, hi, hm⟩)
    (holds_iff_mem_entries.2 ⟨session', hj, hm'⟩))

theorem Sound.length_mailboxesOf (h : s.Sound) (r : Int) :
    (s.mailboxesOf r).length = s.streaming r := by
  rw [mailboxesOf, List.length_filterMap_eq_countP, streaming]
  refine List.countP_congr ?_
  rintro ⟨i, session⟩ hi
  have hequipped : session.state ≠ .streaming none := h.equipped (Keyed.get?_eq_some_iff.2 hi)
  by_cases hr : session.recipient = r
  · cases hstate : session.state with
    | streaming m =>
      cases m with
      | none => exact absurd hstate hequipped
      | some m => simp [hr, SessionState.mailbox?, SessionState.isStreaming]
    | connecting | closed => simp [SessionState.mailbox?, SessionState.isStreaming]
  · simp [hr]

/-- **The registry counts the sessions that stream, and those who listen without one.** -/
theorem Sound.subscriberCount_eq (h : s.Sound) (r : Int) :
    s.broker.subscriberCount r = s.streaming r + s.listening r := by
  have hperm : (s.broker.openFor r).Perm (s.mailboxesOf r ++ s.direct.filter (s.Listens r)) := by
    refine (List.perm_ext_iff_of_nodup (h.ledger.sound.nodup r) ?_).2 fun m ↦ ?_
    · refine List.nodup_append.2 ⟨h.nodup_mailboxesOf r, h.ledger.nodup.filter _, ?_⟩
      rintro m hm m' hm' rfl
      obtain ⟨i, hheld⟩ := mem_mailboxesOf.1 hm
      exact h.ledger.apart hheld (List.mem_filter.1 hm').1
    · rw [h.mem_openFor, List.mem_append, mem_mailboxesOf, List.mem_filter, decide_eq_true_eq]
      exact or_congr_right (iff_and_self.2 And.left)
  rw [Broker.subscriberCount, hperm.length_eq, List.length_append, h.length_mailboxesOf, listening,
    List.countP_eq_length_filter]

/-! ## The end of a session -/

/-- The session with the number `i` was closed or dropped. -/
def Over (i : Nat) (s : Station) : Prop :=
  i < s.opened ∧ ∀ session, s.sessions.get? i = some session → session.state = .closed

/-- What is over stays over, and yields nothing more. -/
theorem Over.step (h : s.Over i) (hsound : s.Sound) (e : Event) :
    (s.step e).Over i ∧ Session.frames (s.yieldedAt i e) = [] := by
  have hopened := Nat.lt_of_lt_of_le h.1 (opened_le_step s e)
  cases hsound.meets i e with
  | stays hget hyield => exact ⟨⟨hopened, hget ▸ h.2⟩, hyield⟩
  | starts hi => exact absurd hi (Nat.ne_of_lt h.1)
  | connects hget hstate | pings hget hstate | hears hget hstate =>
    cases hstate.symm.trans (h.2 _ hget)
  | ends hget hyield hends =>
    refine ⟨⟨hopened, fun session' hget' ↦ ?_⟩, hyield⟩
    rw [hends session' hget']

theorem Over.run (h : s.Over i) (hsound : s.Sound) (es : List Event) :
    (s.run es).Over i ∧ frames i s es = [] := by
  induction es generalizing s with
  | nil => exact ⟨h, rfl⟩
  | cons e es ih =>
    obtain ⟨hstep, hyield⟩ := h.step hsound e
    obtain ⟨hrun, hframes⟩ := ih hstep (hsound.step e)
    refine ⟨hrun, ?_⟩
    show Session.frames (s.yieldedAt i e) ++ frames i (s.step e) es = []
    rw [hyield, hframes]
    rfl

/-- A closed session has nothing more to yield, and does nothing. -/
theorem ask_of_closed {session : Session} (hget : s.sessions.get? i = some session)
    (hstate : session.state = .closed) (first : Wake) : s.ask i first = (some .ended, s) := by
  have hnext : session.nextFrom first s.now s.isStopping s.broker =
      .ok (.ended, session, s.broker) := by
    rw [Session.nextFrom, hstate]
  rw [ask, hget]
  simp only [hnext, Keyed.put_eq_self hget]

/-- The mailbox of a session is never found at its end. -/
theorem Sound.receive_ne_closed (h : s.Sound) (hheld : s.Holds i r m) :
    (s.broker.receive m).1 ≠ .closed := by
  obtain ⟨-, box, hbox, hopen⟩ := h.mailbox hheld
  rw [Broker.receive, hbox]
  cases hpending : box.pending with
  | nil => simp [hpending, hopen]
  | cons n rest => simp [hpending]

/-! ## The protocol -/

/-- What may be relied on after some events. -/
structure Protocol (start : Station) (es : List Event) : Prop where
  /-- A session begins as connecting.  Its number was not given before. -/
  opens : ∀ e i session, (start.run es).sessions.get? i = none →
    ((start.run es).step e).sessions.get? i = some session →
    i = (start.run es).opened ∧ session.state = .connecting
  /-- From there it goes to streaming and to closed, or to closed at once. -/
  moves : ∀ e i session session', (start.run es).sessions.get? i = some session →
    ((start.run es).step e).sessions.get? i = some session' →
    session'.recipient = session.recipient ∧ session.state.Leads session'.state
  /-- While it streams it has one mailbox, which is registered once and is nobody else's. -/
  owns : ∀ i session, (start.run es).sessions.get? i = some session →
    session.state.isStreaming = true → ∃ m, session.state.mailbox? = some m ∧
      ((start.run es).broker.openFor session.recipient).count m = 1 ∧
      m ∉ (start.run es).direct ∧ ∀ j r, (start.run es).Holds j r m → j = i
  /-- Nothing is registered but for those who listen. -/
  registered : ∀ r m, m ∈ (start.run es).broker.openFor r ↔
    (∃ i, (start.run es).Holds i r m) ∨ (start.run es).Listens r m
  counts : ∀ r, (start.run es).broker.subscriberCount r =
    (start.run es).streaming r + (start.run es).listening r
  /-- It yields that it is connected, and then pings and what its mailbox accepted, in order. -/
  yields : ∀ i, Story start i es
  /-- When it has yielded the end, or was closed or dropped, it is over. -/
  ends : ∀ i first, ((start.run es).ask i first).1 = some .ended →
    ((start.run es).step (.next i first)).Over i
  closes : ∀ i session, (start.run es).sessions.get? i = some session →
    ((start.run es).step (.close i)).Over i ∧ ((start.run es).step (.drop i)).Over i
  /-- What is over yields nothing more, has no mailbox, and does nothing when it is asked. -/
  finished : ∀ i, (start.run es).Over i → ∀ es',
    (start.run (es ++ es')).Over i ∧ frames i start (es ++ es') = frames i start es ∧
    ∀ session, (start.run (es ++ es')).sessions.get? i = some session → ∀ first,
      (start.run (es ++ es')).ask i first = (some .ended, start.run (es ++ es'))
  /-- While it streams, it yields the end only because of the order to stop. -/
  stops : ∀ i first session, (start.run es).sessions.get? i = some session →
    session.state.isStreaming = true → ((start.run es).ask i first).1 = some .ended →
    (start.run es).isStopping = true
  /-- It does not find its mailbox closed, or gone. -/
  reads : ∀ i session m, (start.run es).sessions.get? i = some session →
    session.state = .streaming m →
    ∃ id, m = some id ∧ ((start.run es).broker.receive id).1 ≠ .closed

/-- A session that streams has one mailbox, and nobody else has it. -/
theorem Sound.owns (h : s.Sound) {session : Session} (hget : s.sessions.get? i = some session)
    (hstate : session.state.isStreaming = true) : ∃ m, session.state.mailbox? = some m ∧
      (s.broker.openFor session.recipient).count m = 1 ∧ m ∉ s.direct ∧
      ∀ j r, s.Holds j r m → j = i := by
  cases hst : session.state with
  | streaming m =>
    cases m with
    | none => exact absurd hst (h.equipped hget)
    | some m =>
      have hheld : s.Holds i session.recipient m := ⟨session, hget, rfl, hst⟩
      refine ⟨m, rfl, ?_, h.ledger.apart hheld, fun j r hheld' ↦ h.ledger.alone hheld' hheld⟩
      exact List.count_eq_one_of_mem (h.ledger.sound.nodup _) (h.ledger.registered hheld)
  | connecting | closed =>
    rw [hst] at hstate
    cases hstate

theorem Sound.moves (h : s.Sound) (e : Event) {session session' : Session}
    (hget : s.sessions.get? i = some session)
    (hget' : (s.step e).sessions.get? i = some session') :
    session'.recipient = session.recipient ∧ session.state.Leads session'.state := by
  cases h.meets i e with
  | stays hsame =>
    obtain rfl := Option.some.inj (hget'.symm.trans (hsame.trans hget))
    exact ⟨rfl, .stays _⟩
  | starts _ hnone => cases hnone.symm.trans hget
  | connects hfound hstate _ hfound' =>
    obtain rfl := Option.some.inj (hfound.symm.trans hget)
    obtain rfl := Option.some.inj (hfound'.symm.trans hget')
    exact ⟨rfl, hstate ▸ .connects _⟩
  | pings hfound _ _ hfound' =>
    obtain rfl := Option.some.inj (hfound.symm.trans hget)
    obtain rfl := Option.some.inj (hfound'.symm.trans hget')
    exact ⟨rfl, .stays _⟩
  | hears hfound _ _ hfound' =>
    obtain rfl := Option.some.inj (hfound.symm.trans hget)
    obtain rfl := Option.some.inj (hfound'.symm.trans hget')
    exact ⟨rfl, .stays _⟩
  | ends hfound _ hends =>
    obtain rfl := Option.some.inj (hfound.symm.trans hget)
    rw [hends session' hget']
    exact ⟨rfl, .closes _⟩

theorem Sound.opens (h : s.Sound) (e : Event) {session : Session}
    (hnone : s.sessions.get? i = none) (hget : (s.step e).sessions.get? i = some session) :
    i = s.opened ∧ session.state = .connecting := by
  cases h.meets i e with
  | stays hsame => cases hnone.symm.trans (hsame.symm.trans hget)
  | starts hi _ hfound hstate =>
    obtain rfl := Option.some.inj (hfound.symm.trans hget)
    exact ⟨hi, hstate⟩
  | connects hfound | pings hfound | hears hfound | ends hfound => cases hnone.symm.trans hfound

/-- A session that yields the end is over. -/
theorem Sound.ends (h : s.Sound) {first : Wake} (hask : (s.ask i first).1 = some .ended) :
    (s.step (.next i first)).Over i := by
  obtain hnone | ⟨session, y, session', broker, hget, hnext, hsome⟩ := s.ask_eq_or i first
  · cases hnone ▸ hask
  · obtain rfl : y = .ended := Option.some.inj ((congrArg Prod.fst hsome).symm.trans hask)
    refine ⟨Nat.lt_of_lt_of_le (h.numbered hget) (opened_le_step _ _), fun session'' hget' ↦ ?_⟩
    have hafter : (s.step (.next i first)).sessions.get? i = some session' := by
      show (s.ask i first).2.sessions.get? i = _
      rw [hsome]
      exact Keyed.get?_put_self
    obtain rfl := Option.some.inj (hafter.symm.trans hget')
    cases hnext with
    | finished hstate => exact hstate
    | refused | lost | stopped | cutOff => rfl

/-- While a session streams, only the order to stop ends it. -/
theorem Sound.stops (h : s.Sound) {first : Wake} {session : Session}
    (hget : s.sessions.get? i = some session) (hstate : session.state.isStreaming = true)
    (hask : (s.ask i first).1 = some .ended) : s.isStopping = true := by
  obtain hnone | ⟨session, y, session', broker, hget', hnext, hsome⟩ := s.ask_eq_or i first
  · cases hnone ▸ hask
  · obtain rfl : y = .ended := Option.some.inj ((congrArg Prod.fst hsome).symm.trans hask)
    obtain rfl := Option.some.inj (hget'.symm.trans hget)
    cases hnext with
    | finished hstate' =>
      rw [hstate'] at hstate
      cases hstate
    | refused _ hstop | stopped _ hstop => exact hstop
    | lost hstate' => exact absurd hstate' (h.equipped hget)
    | cutOff hstate' hclosed =>
      exact absurd hclosed (h.receive_ne_closed ⟨_, hget, rfl, hstate'⟩)

theorem Sound.over_of_ends (h : s.Sound) {session : Session}
    (hget : s.sessions.get? i = some session) (e : Event)
    (hends : ∀ session', (s.step e).sessions.get? i = some session' →
      session' = { session with state := .closed }) : (s.step e).Over i := by
  refine ⟨Nat.lt_of_lt_of_le (h.numbered hget) (opened_le_step _ _), fun session' hget' ↦ ?_⟩
  rw [hends session' hget']

/-- **Every session keeps to its protocol, whatever happens to it and to the others.** -/
theorem protocol (capacity : Nat) (es : List Event) : Protocol (new capacity) es := by
  have hstart : (new capacity).Sound := sound_new capacity
  have h := hstart.run es
  refine {
    opens := fun e _ _ hnone hget ↦ h.opens e hnone hget
    moves := fun e _ _ _ hget hget' ↦ h.moves e hget hget'
    owns := fun _ _ hget hstate ↦ h.owns hget hstate
    registered := h.mem_openFor
    counts := h.subscriberCount_eq
    yields := fun i ↦ story hstart (fun _ _ _ ⟨_, hget, _⟩ ↦ nomatch hget) i es
    ends := fun _ _ hask ↦ h.ends hask
    closes := fun i session hget ↦ ?_
    finished := fun i hover es' ↦ ?_
    stops := fun _ _ _ hget hstate hask ↦ h.stops hget hstate hask
    reads := fun i session m hget hstate ↦ ?_ }
  · exact ⟨h.over_of_ends hget _ fun _ hget' ↦ of_step_close hget hget',
      h.over_of_ends hget _ fun _ hget' ↦ nomatch (get?_step_drop _ i).symm.trans hget'⟩
  · obtain ⟨hrun, hframes⟩ := hover.run h es'
    have hrun' : ((new capacity).run (es ++ es')).Over i := by rwa [run_append]
    refine ⟨hrun', ?_, fun session hget first ↦ ask_of_closed hget (hrun'.2 session hget) first⟩
    rw [frames, trace_append]
    exact (congrArg _ hframes).trans (List.append_nil _)
  · cases m with
    | none => exact absurd hstate (h.equipped hget)
    | some id => exact ⟨id, rfl, h.receive_ne_closed ⟨session, hget, rfl, hstate⟩⟩

/-- A session that is told something and is stopped. -/
example (n : Notification) : frames 0 (new 10) [.start 1 30000, .next 0 .shutdown,
    .direct (.publish 1 n), .next 0 .mailbox, .shutdown, .next 0 .shutdown] =
    [.connected, .notification n] := rfl

end Station

end Microblog
