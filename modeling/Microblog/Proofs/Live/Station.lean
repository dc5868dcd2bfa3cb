import Mathlib.Data.List.Nodup
import Microblog.Live.Session
import Microblog.Proofs.Live.Delivery

/-!
# Sessions around one broker

A station is any number of sessions, and of subscriptions that are held without a session, around
one broker, one clock and one order to stop.  Its events are all that may happen to any of them, in
any order.

* `Session.Next` lists what can come of it when a session is asked for its next frame, whichever
  way it goes round what it waits for.
* `Station.Ledger` says who holds the mailboxes that the registry lists: each is held by one session
  or directly, and what a session holds is listed.  What an event asks of the broker changes the
  holders in one of three ways (`Ledger.keep`, `Ledger.opens`, `Ledger.opensDirect`).
* `Station.sound_run` carries the ledger through every run.
-/

set_option autoImplicit false

namespace Microblog

namespace Broker

variable {b : Broker} {id m : Nat} {r r' : Int}

/-- The mailbox that an event is about, if it is about one. -/
def Event.mailbox? : Event → Option Nat
  | .receive id | .unsubscribe id | .drop id => some id
  | .subscribe _ | .publish _ _ => none

theorem Event.Closes.mailbox? {e : Event} (h : e.Closes id) : e.mailbox? = some id := by
  rcases h with rfl | rfl <;> rfl

theorem receive_eq_of_ne_item (h : ∀ n, (b.receive id).1 ≠ .item n) : (b.receive id).2 = b := by
  revert h
  rw [receive]
  split
  · split
    · exact fun h ↦ absurd rfl (h _)
    · exact fun _ ↦ rfl
  · exact fun _ ↦ rfl

theorem pendingOf_of_item {n : Notification} (h : (b.receive m).1 = .item n) :
    b.pendingOf m = n :: (b.step (.receive m)).pendingOf m := by
  have hhead : (b.pendingOf m).head?.toList = [n] := by
    rw [← items_receive, h]
    rfl
  have htail : (b.step (.receive m)).pendingOf m = (b.pendingOf m).drop 1 :=
    pendingOf_receives b m 1
  rw [htail]
  cases hpending : b.pendingOf m with
  | nil =>
    rw [hpending] at hhead
    cases hhead
  | cons n' rest =>
    rw [hpending] at hhead
    cases hhead
    rfl

theorem Sound.lt_opened (h : b.Sound) (hm : m ∈ b.openFor r) : m < b.opened := by
  obtain ⟨box, hbox, -⟩ := (h.listed r m).1 hm
  exact h.numbered m box hbox

/-- A mailbox that is not opened yet holds nothing. -/
theorem Sound.pendingOf_eq_nil (h : b.Sound) (hm : b.opened ≤ m) : b.pendingOf m = [] :=
  Broker.pendingOf_eq_nil (Option.eq_none_iff_forall_ne_some.2
    fun box hbox ↦ Nat.not_le_of_lt (h.numbered m box hbox) hm)

theorem mem_openFor_subscribe (hfits : b.capacity < tooLarge) :
    m ∈ (b.step (.subscribe r)).openFor r' ↔ m ∈ b.openFor r' ∨ r' = r ∧ m = b.opened := by
  rw [step_subscribe hfits]
  show m ∈ Broker.openFor r' (Broker.mk _ _ (b.registry.put r _) _) ↔ _
  rw [openFor_put]
  by_cases hr : r' = r
  · subst hr
    rw [if_pos rfl, List.mem_append, List.mem_singleton]
    simp
  · rw [if_neg hr]
    simp [hr, openFor]

end Broker

/-! ## One session -/

namespace Session

variable {first : Wake} {now : Nat} {stop : Bool} {s s' : Session} {b b' : Broker} {y : Yield}

/-- What can come of it when a session is asked what it yields next. -/
inductive Next (now : Nat) (stop : Bool) (s : Session) (b : Broker) :
    Yield → Session → Broker → Prop where
  | finished (hstate : s.state = .closed) : Next now stop s b .ended s b
  | refused (hstate : s.state = .connecting) (hstop : stop = true) :
      Next now stop s b .ended { s with state := .closed } b
  | connected (hstate : s.state = .connecting) (hfits : b.capacity < Broker.tooLarge) :
      Next now stop s b (.frame .connected) { s with state := .streaming (some b.opened) }
        (b.step (.subscribe s.recipient))
  | lost (hstate : s.state = .streaming none) :
      Next now stop s b .ended { s with state := .closed } b
  | stopped {m : Nat} (hstate : s.state = .streaming (some m)) (hstop : stop = true) :
      Next now stop s b .ended { s with state := .closed } (b.step (.drop m))
  | cutOff {m : Nat} (hstate : s.state = .streaming (some m))
      (hclosed : (b.receive m).1 = .closed) :
      Next now stop s b .ended { s with state := .closed } (b.step (.drop m))
  | pinged {m : Nat} (hstate : s.state = .streaming (some m)) (hdue : s.isDue now = true) :
      Next now stop s b (.frame .ping) { s with deadline := s.nextDeadline now } b
  | told {m : Nat} {n : Notification} (hstate : s.state = .streaming (some m))
      (hitem : (b.receive m).1 = .item n) :
      Next now stop s b (.frame (.notification n)) s (b.step (.receive m))
  | waits {m : Nat} (hstate : s.state = .streaming (some m)) : Next now stop s b .pending s b

theorem close_of_streaming {m : Nat} (h : s.state = .streaming (some m)) :
    s.close b = ({ s with state := .closed }, b.step (.drop m)) := by
  rw [close, h]
  rfl

theorem close_of_not_streaming (h : ∀ m, s.state ≠ .streaming (some m)) :
    s.close b = ({ s with state := .closed }, b) := by
  rw [close]
  split
  · rename_i m hm
    exact absurd hm (h m)
  · rfl

theorem fst_close : (s.close b).1 = { s with state := .closed } := by
  rw [close]
  split <;> rfl

theorem of_start {r : Int} {milliseconds : Nat} (h : start now r milliseconds = .ok s) :
    s.recipient = r ∧ s.state = .connecting := by
  rw [start] at h
  split at h
  · cases h
  · cases h
    exact ⟨rfl, rfl⟩

/-- A session that is woken does one of the things for which it streams. -/
theorem next_of_wokenBy {m : Nat} {w : Wake} (hstate : s.state = .streaming (some m))
    (h : s.wokenBy now stop m b w = some (y, s', b')) : Next now stop s b y s' b' := by
  cases w with
  | shutdown =>
    obtain ⟨hstop, h⟩ := Option.ite_none_right_eq_some.1 h
    rw [close_of_streaming hstate] at h
    cases h
    exact .stopped hstate hstop
  | heartbeat =>
    obtain ⟨hdue, h⟩ := Option.ite_none_right_eq_some.1 h
    cases h
    exact .pinged hstate hdue
  | mailbox =>
    rw [wokenBy] at h
    split at h
    · rename_i n b'' hreceive
      cases h
      have hstep : b' = b.step (.receive m) := (congrArg Prod.snd hreceive).symm
      exact hstep ▸ .told hstate (congrArg Prod.fst hreceive)
    · cases h
    · rename_i b'' hreceive
      have hclosed : (b.receive m).1 = .closed := congrArg Prod.fst hreceive
      have hsame : b'' = b := (congrArg Prod.snd hreceive).symm.trans
        (Broker.receive_eq_of_ne_item (by simp [hclosed]))
      rw [hsame, close_of_streaming hstate] at h
      cases h
      exact .cutOff hstate hclosed

/-- **What a session may do next is on the list**, whichever way it goes round. -/
theorem next_of_nextFrom (h : s.nextFrom first now stop b = .ok (y, s', b')) :
    Next now stop s b y s' b' := by
  rw [nextFrom] at h
  split at h
  · rename_i hstate
    cases h
    exact .finished hstate
  · rename_i hstate
    split at h
    · rename_i hstop
      rw [close_of_not_streaming (by simp [hstate])] at h
      cases h
      exact .refused hstate hstop
    · by_cases hfits : b.capacity < Broker.tooLarge
      · rw [Broker.subscribe, if_pos hfits] at h
        cases h
        show Next now stop s b _ _ (b.register s.recipient).2
        rw [← Broker.step_subscribe hfits]
        exact .connected hstate hfits
      · rw [Broker.subscribe, if_neg hfits] at h
        cases h
  · rename_i hstate
    rw [close_of_not_streaming (by simp [hstate])] at h
    cases h
    exact .lost hstate
  · rename_i m hstate
    have hresult := Except.ok.inj h
    cases hwoken : first.order.findSome? (s.wokenBy now stop m b) with
    | none =>
      rw [hwoken] at hresult
      cases hresult
      exact .waits hstate
    | some result =>
      rw [hwoken] at hresult
      obtain rfl : result = (y, s', b') := hresult
      obtain ⟨w, -, hw⟩ := List.exists_of_findSome?_eq_some hwoken
      exact next_of_wokenBy hstate hw

end Session

/-! ## Stations -/

/-- Sessions and other listeners around one broker. -/
structure Station where
  broker : Broker
  /-- The sessions that were not dropped, by their numbers. -/
  sessions : Keyed Nat Session
  /-- The number of sessions opened so far, which are numbered from zero on. -/
  opened : Nat
  /-- The mailboxes that are held without a session. -/
  direct : List Nat
  now : Nat
  isStopping : Bool

/-- What may happen around a broker. -/
inductive Station.Event where
  /-- A session is opened, with a heartbeat every so many milliseconds. -/
  | start (recipient : Int) (milliseconds : Nat)
  /-- A session is asked what it yields next, and looks at `first` before anything else. -/
  | next (session : Nat) (first : Wake)
  | close (session : Nat)
  | drop (session : Nat)
  /-- Something is published, or a listener without a session does something. -/
  | direct (e : Broker.Event)
  | advance (ns : Nat)
  | shutdown

namespace Station

/-- A station without sessions, whose mailboxes will hold `capacity` notifications each. -/
def new (capacity : Nat) : Station := ⟨.new capacity, .empty, 0, [], 0, false⟩

/-- What a session yields next.  Nothing comes of it, and nothing changes, if there is no such
session, or if its mailbox would be too large. -/
def ask (i : Nat) (first : Wake) (s : Station) : Option Yield × Station :=
  match s.sessions.get? i with
  | none => (none, s)
  | some session =>
    match session.nextFrom first s.now s.isStopping s.broker with
    | .ok (y, session, broker) => (some y, { s with sessions := s.sessions.put i session, broker })
    | .error _ => (none, s)

/-- Do something without a session.  A listener has its own mailboxes only. -/
def directly (e : Broker.Event) (s : Station) : Station :=
  match e with
  | .subscribe r =>
    match s.broker.subscribe r with
    | .ok (m, broker) => { s with broker, direct := s.direct ++ [m] }
    | .error _ => s
  | e =>
    if ∀ m ∈ e.mailbox?, m ∈ s.direct then
      { s with broker := s.broker.step e, direct := s.direct.filter fun m ↦ e ≠ .drop m }
    else s

/-- The station after an event. -/
def step (s : Station) : Event → Station
  | .start r milliseconds =>
    match Session.start s.now r milliseconds with
    | .ok session =>
      { s with sessions := s.sessions.put s.opened session, opened := s.opened + 1 }
    | .error _ => s
  | .next i first => (s.ask i first).2
  | .close i =>
    match s.sessions.get? i with
    | some session =>
      let (session, broker) := session.close s.broker
      { s with sessions := s.sessions.put i session, broker }
    | none => s
  | .drop i =>
    match s.sessions.get? i with
    | some session =>
      { s with sessions := s.sessions.remove i, broker := (session.close s.broker).2 }
    | none => s
  | .direct e => s.directly e
  | .advance ns => { s with now := s.now + ns }
  | .shutdown => { s with isStopping := true }

/-- The station after some events, one after the other. -/
def run (s : Station) (es : List Event) : Station := es.foldl step s

variable {s : Station} {i j m : Nat} {r : Int} {session session' : Session}

/-! ## Single events -/

theorem step_start (milliseconds : Nat) : s.step (.start r milliseconds) =
    match Session.start s.now r milliseconds with
    | .ok session =>
      { s with sessions := s.sessions.put s.opened session, opened := s.opened + 1 }
    | .error _ => s := by
  -- so that nobody computes how the session starts, with all its nanoseconds
  obtain ⟨start, hstart⟩ : ∃ start, start = Session.start s.now := ⟨_, rfl⟩
  rw [step.eq_def, ← hstart]

theorem step_close : s.step (.close i) =
    match s.sessions.get? i with
    | some session =>
      { s with
        sessions := s.sessions.put i (session.close s.broker).1
        broker := (session.close s.broker).2 }
    | none => s := rfl

theorem step_drop : s.step (.drop i) =
    match s.sessions.get? i with
    | some session =>
      { s with sessions := s.sessions.remove i, broker := (session.close s.broker).2 }
    | none => s := rfl

/-- A session of the recipient `r` holds the mailbox `m`. -/
def Holds (s : Station) (i : Nat) (r : Int) (m : Nat) : Prop :=
  ∃ session, s.sessions.get? i = some session ∧ session.recipient = r ∧
    session.state = .streaming (some m)

/-! ## Who holds the mailboxes -/

/-- Who holds the mailboxes of a broker: sessions, each for its recipient, and those who listen
without one. -/
structure Ledger (b : Broker) (holds : Nat → Int → Nat → Prop) (direct : List Nat) : Prop where
  sound : b.Sound
  fits : 0 < b.opened → b.capacity < Broker.tooLarge
  registered : ∀ {i r m}, holds i r m → m ∈ b.openFor r
  alone : ∀ {i j r r' m}, holds i r m → holds j r' m → i = j
  apart : ∀ {i r m}, holds i r m → m ∉ direct
  nodup : direct.Nodup
  lt_opened : ∀ {m}, m ∈ direct → m < b.opened
  /-- Nothing stays in the registry that nobody holds. -/
  held : ∀ {r m}, m ∈ b.openFor r → m ∈ direct ∨ ∃ i r', holds i r' m

namespace Ledger

variable {b : Broker} {holds holds' : Nat → Int → Nat → Prop} {direct direct' : List Nat}

theorem congr (h : Ledger b holds direct) (hholds : ∀ i r m, holds' i r m ↔ holds i r m) :
    Ledger b holds' direct := by
  have hsame : holds' = holds := funext fun i ↦ funext fun r ↦ funext fun m ↦
    propext (hholds i r m)
  exact hsame ▸ h

/-- What opens no mailbox leaves the others with their holders. -/
theorem keep (h : Ledger b holds direct) {e : Broker.Event} (he : ∀ r, e ≠ .subscribe r)
    (hholds : ∀ i r m, holds' i r m ↔ holds i r m ∧ ¬e.Closes m)
    (hsublist : direct'.Sublist direct)
    (hdirect : ∀ m ∈ direct, ¬e.Closes m → m ∈ direct') : Ledger (b.step e) holds' direct' where
  sound := h.sound.step e
  fits hopened := by
    obtain ⟨hcapacity, hcount⟩ := b.step_counts he
    rw [hcapacity]
    exact h.fits (hcount ▸ hopened)
  registered hholds' := by
    obtain ⟨hbefore, hcloses⟩ := (hholds _ _ _).1 hholds'
    exact ((h.sound.openFor_step he _).2 _).2 ⟨h.registered hbefore, hcloses⟩
  alone hi hj := h.alone ((hholds _ _ _).1 hi).1 ((hholds _ _ _).1 hj).1
  apart hi hm := h.apart ((hholds _ _ _).1 hi).1 (hsublist.subset hm)
  nodup := h.nodup.sublist hsublist
  lt_opened hm := by
    rw [(b.step_counts he).2]
    exact h.lt_opened (hsublist.subset hm)
  held hm := by
    obtain ⟨hopen, hcloses⟩ := ((h.sound.openFor_step he _).2 _).1 hm
    rcases h.held hopen with hdir | ⟨i, r, hi⟩
    · exact .inl (hdirect _ hdir hcloses)
    · exact .inr ⟨i, r, (hholds i r _).2 ⟨hi, hcloses⟩⟩

/-- The next number is on no list. -/
theorem fresh (h : Ledger b holds direct) (i : Nat) (r : Int) : ¬holds i r b.opened :=
  fun hi ↦ Nat.lt_irrefl _ (h.sound.lt_opened (h.registered hi))

/-- A session opens a mailbox. -/
theorem opens (h : Ledger b holds direct) (hfits : b.capacity < Broker.tooLarge) {r : Int}
    (hholds : ∀ j r' m, holds' j r' m ↔ holds j r' m ∨ j = i ∧ r' = r ∧ m = b.opened) :
    Ledger (b.step (.subscribe r)) holds' direct where
  sound := h.sound.step _
  fits _ := (Broker.capacity_step _).symm ▸ hfits
  registered hj := (Broker.mem_openFor_subscribe hfits).2 <|
    ((hholds _ _ _).1 hj).imp h.registered And.right
  alone {j k r₁ r₂ m} hj hk := by
    rcases (hholds _ _ _).1 hj with hj | ⟨rfl, -, rfl⟩
    · rcases (hholds _ _ _).1 hk with hk | ⟨-, -, rfl⟩
      · exact h.alone hj hk
      · exact absurd hj (h.fresh _ _)
    · rcases (hholds _ _ _).1 hk with hk | ⟨rfl, -, -⟩
      · exact absurd hk (h.fresh _ _)
      · rfl
  apart hj hm := by
    rcases (hholds _ _ _).1 hj with hj | ⟨-, -, rfl⟩
    · exact h.apart hj hm
    · exact Nat.lt_irrefl _ (h.lt_opened hm)
  nodup := h.nodup
  lt_opened hm := Nat.lt_of_lt_of_le (h.lt_opened hm) (Broker.opened_le_step _)
  held hm := by
    rcases (Broker.mem_openFor_subscribe hfits).1 hm with hm | ⟨rfl, rfl⟩
    · rcases h.held hm with hdir | ⟨j, r', hj⟩
      · exact .inl hdir
      · exact .inr ⟨j, r', (hholds _ _ _).2 (.inl hj)⟩
    · exact .inr ⟨i, _, (hholds _ _ _).2 (.inr ⟨rfl, rfl, rfl⟩)⟩

/-- Someone without a session opens a mailbox. -/
theorem opensDirect (h : Ledger b holds direct) (hfits : b.capacity < Broker.tooLarge) (r : Int) :
    Ledger (b.step (.subscribe r)) holds (direct ++ [b.opened]) where
  sound := h.sound.step _
  fits _ := (Broker.capacity_step _).symm ▸ hfits
  registered hj := (Broker.mem_openFor_subscribe hfits).2 (.inl (h.registered hj))
  alone := h.alone
  apart {i r m} hi hm := by
    rcases List.mem_append.1 hm with hm | hm
    · exact h.apart hi hm
    · exact h.fresh i r (List.mem_singleton.1 hm ▸ hi)
  nodup := by
    refine List.nodup_append.2 ⟨h.nodup, List.nodup_singleton _, ?_⟩
    rintro m hm m' hm' rfl
    exact Nat.lt_irrefl _ (List.mem_singleton.1 hm' ▸ h.lt_opened hm)
  lt_opened hm := by
    rw [Broker.step_subscribe hfits]
    rcases List.mem_append.1 hm with hm | hm
    · exact Nat.lt_succ_of_lt (h.lt_opened hm)
    · exact List.mem_singleton.1 hm ▸ Nat.lt_succ_self _
  held hm := by
    rcases (Broker.mem_openFor_subscribe hfits).1 hm with hm | ⟨rfl, rfl⟩
    · exact (h.held hm).imp_left (List.mem_append_left _)
    · exact .inl (List.mem_append_right _ (List.mem_singleton_self _))

end Ledger

/-- The station is in order. -/
structure Sound (s : Station) : Prop where
  ledger : Ledger s.broker s.Holds s.direct
  numbered : ∀ {i session}, s.sessions.get? i = some session → i < s.opened
  /-- No session has lost its mailbox. -/
  equipped : ∀ {i session}, s.sessions.get? i = some session → session.state ≠ .streaming none

theorem sound_new (capacity : Nat) : Sound (new capacity) where
  ledger := {
    sound := Broker.sound_new capacity
    fits := fun h ↦ absurd h (Nat.lt_irrefl 0)
    registered := fun ⟨_, h, _⟩ ↦ nomatch h
    alone := fun ⟨_, h, _⟩ ↦ nomatch h
    apart := fun ⟨_, h, _⟩ ↦ nomatch h
    nodup := List.nodup_nil
    lt_opened := nofun
    held := nofun }
  numbered := nofun
  equipped := nofun

/-! ## One event -/

theorem holds_put {session : Session} {broker : Broker} {r : Int} :
    Holds { s with sessions := s.sessions.put i session, broker } j r m ↔
      if j = i then session.recipient = r ∧ session.state = .streaming (some m)
      else s.Holds j r m := by
  simp only [Holds, Keyed.get?_put]
  split
  · simp
  · rfl

theorem holds_of_get? (hget : s.sessions.get? i = some session) :
    s.Holds i r m ↔ session.recipient = r ∧ session.state = .streaming (some m) := by
  simp [Holds, hget]

/-- A session that holds what it held before changes no holder. -/
theorem holds_put_of_same {broker : Broker} (hget : s.sessions.get? i = some session)
    (hrecipient : session'.recipient = session.recipient)
    (hstate : ∀ m, session'.state = .streaming (some m) ↔ session.state = .streaming (some m))
    (j : Nat) (r : Int) (m : Nat) :
    Holds { s with sessions := s.sessions.put i session', broker } j r m ↔ s.Holds j r m := by
  rw [holds_put]
  split
  · rename_i hj
    rw [hj, holds_of_get? hget, hrecipient, hstate]
  · rfl

/-- Closing a session leaves the others with what they hold. -/
theorem holds_put_closed {broker : Broker} (session : Session) (j : Nat) (r : Int) (m : Nat) :
    Holds { s with sessions := s.sessions.put i { session with state := .closed }, broker } j r m ↔
      j ≠ i ∧ s.Holds j r m := by
  rw [holds_put]
  split
  · rename_i hj
    simp [hj]
  · rename_i hj
    simp [hj]

theorem holds_remove {broker : Broker} (j : Nat) (r : Int) (m : Nat) :
    Holds { s with sessions := s.sessions.remove i, broker } j r m ↔ j ≠ i ∧ s.Holds j r m := by
  simp only [Holds, Keyed.get?_remove]
  split
  · rename_i hj
    simp [hj]
  · rename_i hj
    simp [hj]

/-- When a session gives its mailbox up, the others keep theirs. -/
theorem Sound.released (h : s.Sound) (hget : s.sessions.get? i = some session)
    (hstate : session.state = .streaming (some m)) {holds' : Nat → Int → Nat → Prop}
    (hholds : ∀ j r m', holds' j r m' ↔ j ≠ i ∧ s.Holds j r m') :
    Ledger (s.broker.step (.drop m)) holds' s.direct := by
  have hheld : s.Holds i session.recipient m := ⟨session, hget, rfl, hstate⟩
  refine h.ledger.keep (by simp) (fun j r m' ↦ ?_) (List.Sublist.refl _) fun _ hm _ ↦ hm
  rw [hholds, and_comm]
  refine and_congr_right fun hj ↦ not_congr ⟨?_, fun hcloses ↦ ?_⟩
  · rintro rfl
    rw [holds_of_get? hget, hstate] at hj
    cases hj.2
    exact .inr rfl
  · obtain rfl : m = m' := by simpa [Broker.Event.Closes] using hcloses
    exact h.ledger.alone hj hheld

/-- A session that holds nothing can go without a trace. -/
theorem Sound.vacated (h : s.Sound) (hget : s.sessions.get? i = some session)
    (hstate : ∀ m, session.state ≠ .streaming (some m)) {holds' : Nat → Int → Nat → Prop}
    (hholds : ∀ j r m', holds' j r m' ↔ j ≠ i ∧ s.Holds j r m') :
    Ledger s.broker holds' s.direct := by
  refine h.ledger.congr fun j r m' ↦ ?_
  rw [hholds]
  refine and_iff_right_of_imp ?_
  rintro hj rfl
  exact hstate m' ((holds_of_get? hget).1 hj).2

theorem Sound.closed (h : s.Sound) (hget : s.sessions.get? i = some session)
    {holds' : Nat → Int → Nat → Prop} (hholds : ∀ j r m', holds' j r m' ↔ j ≠ i ∧ s.Holds j r m') :
    Ledger (session.close s.broker).2 holds' s.direct := by
  by_cases hstate : ∃ m, session.state = .streaming (some m)
  · obtain ⟨m, hstate⟩ := hstate
    rw [Session.close_of_streaming hstate]
    exact h.released hget hstate hholds
  · rw [not_exists] at hstate
    rw [Session.close_of_not_streaming hstate]
    exact h.vacated hget hstate hholds

/-- A station with other sessions is in order, if the holders are and no session lost anything. -/
theorem Sound.put (h : s.Sound) (hget : s.sessions.get? i = some session) {broker : Broker}
    (hledger : Ledger broker (Holds { s with sessions := s.sessions.put i session', broker })
      s.direct) (hstate : session'.state ≠ .streaming none) :
    Sound { s with sessions := s.sessions.put i session', broker } where
  ledger := hledger
  numbered {j session''} hj := by
    rw [Keyed.get?_put] at hj
    split at hj
    · rename_i hi
      rw [hi]
      exact h.numbered hget
    · exact h.numbered hj
  equipped {j session''} hj := by
    rw [Keyed.get?_put] at hj
    split at hj
    · exact Option.some.inj hj ▸ hstate
    · exact h.equipped hj

/-- Whatever a session does next, the station stays in order. -/
theorem Sound.next (h : s.Sound) (hget : s.sessions.get? i = some session) {y : Yield}
    {broker : Broker} (hnext : session.Next s.now s.isStopping s.broker y session' broker) :
    Sound { s with sessions := s.sessions.put i session', broker } := by
  have hequipped := h.equipped hget
  cases hnext with
  | finished | waits | pinged =>
    exact h.put hget (h.ledger.congr (holds_put_of_same hget rfl fun _ ↦ .rfl)) hequipped
  | told =>
    refine h.put hget (h.ledger.keep (by simp) (fun j r m ↦ ?_) (.refl _) fun _ hm _ ↦ hm) hequipped
    rw [holds_put_of_same hget rfl fun _ ↦ .rfl]
    simp [Broker.Event.Closes]
  | connected hstate hfits =>
    refine h.put hget (h.ledger.opens (i := i) hfits fun j r m ↦ ?_) (by simp)
    rw [holds_put]
    split
    · rename_i hj
      rw [hj, holds_of_get? hget, hstate]
      simp [eq_comm]
    · rename_i hj
      simp [hj]
  | refused hstate =>
    exact h.put hget (h.vacated hget (by simp [hstate]) (holds_put_closed session))
      (by simp)
  | lost hstate => exact absurd hstate hequipped
  | stopped hstate | cutOff hstate =>
    exact h.put hget (h.released hget hstate (holds_put_closed session)) (by simp)

theorem directly_of_ne {e : Broker.Event} (he : ∀ r, e ≠ .subscribe r) :
    s.directly e = if ∀ m ∈ e.mailbox?, m ∈ s.direct then
      { s with broker := s.broker.step e, direct := s.direct.filter fun m ↦ e ≠ .drop m }
    else s := by
  cases e with
  | subscribe r => exact absurd rfl (he r)
  | publish | receive | unsubscribe | drop => rfl

/-- What listeners without a session do leaves the station in order. -/
theorem Sound.directly (h : s.Sound) (e : Broker.Event) : (s.directly e).Sound := by
  by_cases he : ∃ r, e = .subscribe r
  · obtain ⟨r, rfl⟩ := he
    rw [Station.directly]
    split
    · rename_i m broker hsubscribe
      obtain ⟨hfits, rfl⟩ := Broker.of_subscribe hsubscribe
      have hstep : broker = s.broker.step (.subscribe r) := by
        simp only [Broker.step, hsubscribe]
      exact ⟨hstep ▸ h.ledger.opensDirect hfits r, h.numbered, h.equipped⟩
    · exact h
  · rw [not_exists] at he
    rw [directly_of_ne he]
    split
    · rename_i howned
      refine ⟨h.ledger.keep he (fun i r m ↦ ?_) List.filter_sublist fun m hm hcloses ↦ ?_,
        h.numbered, h.equipped⟩
      · refine (and_iff_left_of_imp fun hi hcloses ↦ ?_).symm
        exact h.ledger.apart hi (howned m hcloses.mailbox?)
      · refine List.mem_filter.2 ⟨hm, decide_eq_true ?_⟩
        rintro rfl
        exact hcloses (.inr rfl)
    · exact h

/-- **Whatever happens, the station stays in order.** -/
theorem Sound.step (h : s.Sound) (e : Event) : (s.step e).Sound := by
  cases e with
  | start r milliseconds =>
    rw [step_start]
    split
    · rename_i session hstart
      obtain ⟨-, hstate⟩ := Session.of_start hstart
      have hfresh : s.sessions.get? s.opened = none := Option.eq_none_iff_forall_ne_some.2
        fun session hget ↦ Nat.lt_irrefl _ (h.numbered hget)
      refine ⟨h.ledger.congr fun j r m ↦ ?_, fun {j session'} hget ↦ ?_, fun {j session'} hget ↦ ?_⟩
      · show Holds { s with sessions := s.sessions.put s.opened session } j r m ↔ _
        rw [holds_put]
        split
        · rename_i hj
          simp [hj, hstate, Holds, hfresh]
        · rfl
      · rw [Keyed.get?_put] at hget
        split at hget
        · rename_i hj
          exact hj ▸ Nat.lt_succ_self _
        · exact Nat.lt_succ_of_lt (h.numbered hget)
      · rw [Keyed.get?_put] at hget
        split at hget
        · obtain rfl := Option.some.inj hget
          simp [hstate]
        · exact h.equipped hget
    · exact h
  | next i first =>
    show (s.ask i first).2.Sound
    rw [ask]
    split
    · exact h
    · rename_i session hget
      split
      · rename_i y session' broker hnext
        exact h.next hget (Session.next_of_nextFrom hnext)
      · exact h
  | close i =>
    rw [step_close]
    split
    · rename_i session hget
      rw [Session.fst_close]
      exact h.put hget (h.closed hget (holds_put_closed session)) (by simp)
    · exact h
  | drop i =>
    rw [step_drop]
    split
    · rename_i session hget
      refine ⟨h.closed hget holds_remove, fun {j session'} hj ↦ ?_, fun {j session'} hj ↦ ?_⟩
      · rw [Keyed.get?_remove] at hj
        exact h.numbered (Option.ite_none_left_eq_some.1 hj).2
      · rw [Keyed.get?_remove] at hj
        exact h.equipped (Option.ite_none_left_eq_some.1 hj).2
    · exact h
  | direct e => exact h.directly e
  | advance | shutdown => exact ⟨h.ledger, h.numbered, h.equipped⟩

theorem Sound.run (h : s.Sound) (es : List Event) : (s.run es).Sound := by
  induction es generalizing s with
  | nil => exact h
  | cons e es ih => exact ih (h.step e)

end Station

end Microblog
