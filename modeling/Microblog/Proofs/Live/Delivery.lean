import Mathlib.Data.List.Induction
import Microblog.Proofs.Live.Broker

/-!
# What a subscription gets

A subscription accepts what is published for its recipient while it is open and its mailbox has
room, and it hands out what it has accepted, in that order.  `Broker.Delivers` is the full statement
about one subscription, and `Broker.delivery` says that it holds of all of them in every run.

* What a subscription accepts and hands out is read off the broker: what its mailbox holds more
  after an event than before, and what is found when it is read (`Broker.acceptedAt`,
  `Broker.receivedAt`).
* One event neither loses nor adds anything: what is in the mailbox and what it accepts is what it
  hands out and what stays (`Broker.Opened.conserved`).  `Broker.Account` carries this through a
  run.
* Of the events of a run a subscription sees only those that are meant for it
  (`Broker.Event.seenBy`).  The others change nothing for it, so that it gets the same as in a
  broker in which only these happen (`Broker.trace_seenBy`).
-/

set_option autoImplicit false

namespace Microblog

/-- What is taken out of a mailbox. -/
def Receipt.items : Receipt → List Notification
  | .item n => [n]
  | .pending | .closed => []

namespace Broker

variable {b b' start : Broker} {capacity id : Nat} {r : Int} {box box' : Mailbox} {e : Event}
  {during : List Event}

/-! ## Accounts -/

/-- What the mailbox of a subscription holds. -/
def pendingOf (id : Nat) (b : Broker) : List Notification :=
  ((b.mailboxes.get? id).map Mailbox.pending).getD []

/-- What a subscription accepts when something happens: what its mailbox holds more afterwards. -/
def acceptedAt (id : Nat) (b : Broker) (e : Event) : List Notification :=
  ((b.step e).pendingOf id).drop (b.pendingOf id).length

/-- What is received from a subscription when something happens. -/
def receivedAt (id : Nat) (b : Broker) : Event → List Notification
  | .receive i => if i = id then (b.receive i).1.items else []
  | _ => []

/-- What comes of some events, one after the other. -/
def trace (out : Broker → Event → List Notification) : Broker → List Event → List Notification
  | _, [] => []
  | b, e :: es => out b e ++ trace out (b.step e) es

/-- What a subscription accepts during some events, in order. -/
def accepted (id : Nat) : Broker → List Event → List Notification := trace (acceptedAt id)

/-- What is received from a subscription during some events, in order. -/
def received (id : Nat) : Broker → List Event → List Notification := trace (receivedAt id)

/-- What an event publishes for a recipient. -/
def Event.publishedFor (r : Int) : Event → List Notification
  | .publish r' n => if r' = r then [n] else []
  | _ => []

theorem run_append (es es' : List Event) : b.run (es ++ es') = (b.run es).run es' :=
  List.foldl_append

theorem trace_append (out : Broker → Event → List Notification) (es es' : List Event) :
    trace out b (es ++ es') = trace out b es ++ trace out (b.run es) es' := by
  induction es generalizing b with
  | nil => rfl
  | cons e es ih =>
    rw [List.cons_append, trace, trace, ih, List.append_assoc]
    rfl

theorem trace_concat (out : Broker → Event → List Notification) (es : List Event) (e : Event) :
    trace out b (es ++ [e]) = trace out b es ++ out (b.run es) e := by
  rw [trace_append, trace, trace, List.append_nil]

theorem pendingOf_eq (h : b.mailboxes.get? id = some box) : b.pendingOf id = box.pending := by
  rw [pendingOf, h]
  rfl

theorem pendingOf_eq_nil (h : b.mailboxes.get? id = none) : b.pendingOf id = [] := by
  rw [pendingOf, h]
  rfl

theorem items_receive (b : Broker) (id : Nat) :
    (b.receive id).1.items = (b.pendingOf id).head?.toList := by
  rw [receive]
  cases hbox : b.mailboxes.get? id with
  | none => rw [pendingOf_eq_nil hbox]; rfl
  | some box =>
    rw [pendingOf_eq hbox]
    cases hpending : box.pending with
    | nil => cases hopen : box.isOpen <;> simp [hpending, hopen, Receipt.items]
    | cons n rest => simp [hpending, Receipt.items]

/-! ## One event -/

/-- The number was given to a subscription of the broker, which may have ended. -/
structure Opened (id : Nat) (b : Broker) : Prop where
  sound : b.Sound
  fits : b.capacity < tooLarge
  lt : id < b.opened

theorem Opened.step (h : b.Opened id) (e : Event) : (b.step e).Opened id where
  sound := h.sound.step e
  fits := by
    rw [capacity_step]
    exact h.fits
  lt := Nat.lt_of_lt_of_le h.lt (opened_le_step e)

theorem Opened.get?_step (h : b.Opened id) (hbox : b.mailboxes.get? id = some box) (e : Event) :
    (b.step e).mailboxes.get? id = box.next b.capacity id e := by
  rw [h.sound.get?_step h.fits h.lt, hbox]
  rfl

theorem Opened.get?_step_of_none (h : b.Opened id) (hnone : b.mailboxes.get? id = none)
    (e : Event) : (b.step e).mailboxes.get? id = none := by
  rw [h.sound.get?_step h.fits h.lt, hnone]
  rfl

/-- A mailbox takes what is published for its recipient, if it is open and has room. -/
theorem publishedFor_publish (box : Mailbox) (capacity : Nat) (r : Int) (n : Notification) :
    (if box.isOpen = true ∧ box.pending.length < capacity then
      (Event.publish r n).publishedFor box.recipient else []) =
      if box.Takes capacity r then [n] else [] := by
  rw [Event.publishedFor]
  by_cases htakes : box.Takes capacity r
  · rw [if_pos htakes, if_pos ⟨htakes.1, htakes.2.2⟩, if_pos htakes.2.1.symm]
  · rw [if_neg htakes]
    split
    · rename_i hroom
      exact if_neg fun hr ↦ htakes ⟨hroom.1, hr.symm, hroom.2⟩
    · rfl

/-- A subscription accepts what is published for its recipient, as long as it is open and has
room. -/
theorem Opened.acceptedAt_eq (h : b.Opened id) (hbox : b.mailboxes.get? id = some box)
    (e : Event) : b.acceptedAt id e =
      if box.isOpen = true ∧ box.pending.length < b.capacity then e.publishedFor box.recipient
      else [] := by
  have hnext := h.get?_step hbox e
  rw [acceptedAt, pendingOf_eq hbox]
  cases e with
  | subscribe =>
    rw [pendingOf_eq hnext, List.drop_length]
    exact (ite_self _).symm
  | publish r n =>
    rw [pendingOf_eq hnext, publishedFor_publish]
    split
    · exact List.drop_left
    · exact List.drop_length
  | receive i =>
    rw [pendingOf_eq hnext]
    refine Eq.trans (List.drop_eq_nil_of_le ?_) (ite_self _).symm
    split
    · exact List.length_tail ▸ Nat.sub_le _ _
    · exact Nat.le_refl _
  | unsubscribe i =>
    rw [pendingOf_eq hnext]
    refine Eq.trans (List.drop_eq_nil_of_le ?_) (ite_self _).symm
    split <;> exact Nat.le_refl _
  | drop i =>
    refine Eq.trans (List.drop_eq_nil_of_le ?_) (ite_self _).symm
    by_cases hi : i = id
    · rw [pendingOf_eq_nil (hnext.trans (if_pos hi))]
      exact Nat.zero_le _
    · exact Nat.le_of_eq (congrArg List.length (pendingOf_eq (hnext.trans (if_neg hi))))

/-- A subscription that was dropped accepts nothing. -/
theorem Opened.acceptedAt_of_none (h : b.Opened id) (hnone : b.mailboxes.get? id = none)
    (e : Event) : b.acceptedAt id e = [] := by
  rw [acceptedAt, pendingOf_eq_nil (h.get?_step_of_none hnone e)]
  exact List.drop_nil

theorem receivedAt_of_none (hnone : b.mailboxes.get? id = none) (e : Event) :
    b.receivedAt id e = [] := by
  cases e with
  | receive i =>
    rw [receivedAt]
    split
    · rename_i hi
      rw [items_receive, hi, pendingOf_eq_nil hnone]
      rfl
    · rfl
  | subscribe | publish | unsubscribe | drop => rfl

/-- **Nothing is lost and nothing appears**: what is there and what is accepted is what is received
and what stays, unless the mailbox is forgotten. -/
theorem Opened.conserved (h : b.Opened id) (hbox : b.mailboxes.get? id = some box)
    (hnext : box.next b.capacity id e = some box') :
    box.pending ++ b.acceptedAt id e = b.receivedAt id e ++ box'.pending := by
  rw [h.acceptedAt_eq hbox]
  cases e with
  | subscribe =>
    cases hnext
    simp [receivedAt, Event.publishedFor]
  | publish r n =>
    obtain rfl := Option.some.inj hnext
    rw [publishedFor_publish]
    split
    · rfl
    · exact List.append_nil _
  | receive i =>
    obtain rfl := Option.some.inj hnext
    simp only [Event.publishedFor, ite_self, List.append_nil]
    rw [receivedAt]
    split
    · rename_i hi
      rw [items_receive, hi, pendingOf_eq hbox]
      cases box.pending <;> rfl
    · rfl
  | unsubscribe i =>
    obtain rfl := Option.some.inj hnext
    simp only [Event.publishedFor, ite_self, List.append_nil, receivedAt, List.nil_append]
    split <;> rfl
  | drop i =>
    obtain ⟨-, hnext⟩ := Option.ite_none_left_eq_some.1 hnext
    obtain rfl := Option.some.inj hnext
    simp [receivedAt, Event.publishedFor]

/-! ## One subscription through a run -/

/-- What is true of a subscription after it was opened in `start` and some events have happened. -/
structure Account (id : Nat) (r : Int) (start : Broker) (during : List Event) : Prop where
  opened : (start.run during).Opened id
  /-- The mailbox keeps its recipient, and it is open until the subscription ends. -/
  kept : ∀ box, (start.run during).mailboxes.get? id = some box →
    box.recipient = r ∧ (box.isOpen = true ↔ ∀ e ∈ during, ¬e.Closes id)
  dropped : (start.run during).mailboxes.get? id = none ↔ .drop id ∈ during
  /-- What was accepted and not received is in the mailbox, as long as there is one. -/
  balance : ∃ rest, accepted id start during = received id start during ++ rest ∧
    ∀ box, (start.run during).mailboxes.get? id = some box → box.pending = rest

theorem account_nil (h : start.Opened id) (hbox : start.mailboxes.get? id = some ⟨r, [], true⟩) :
    Account id r start [] where
  opened := h
  kept box hbox' := by
    obtain rfl := Option.some.inj (hbox.symm.trans hbox')
    exact ⟨rfl, iff_of_true rfl fun _ he ↦ absurd he List.not_mem_nil⟩
  dropped := iff_of_false (fun hnone ↦ nomatch hbox.symm.trans hnone) List.not_mem_nil
  balance := by
    refine ⟨[], rfl, fun box hbox' ↦ ?_⟩
    obtain rfl := Option.some.inj (hbox.symm.trans hbox')
    rfl

theorem Account.concat_of_none (h : Account id r start during)
    (hnone : (start.run during).mailboxes.get? id = none) (e : Event) :
    Account id r start (during ++ [e]) := by
  have hnone' : (start.run (during ++ [e])).mailboxes.get? id = none := by
    rw [run_append]
    exact h.opened.get?_step_of_none hnone e
  refine ⟨?_, fun box hbox' ↦ absurd (hnone'.symm.trans hbox') nofun, iff_of_true hnone' ?_, ?_⟩
  · rw [run_append]
    exact h.opened.step e
  · exact List.mem_append_left _ (h.dropped.1 hnone)
  · obtain ⟨rest, hbalance, -⟩ := h.balance
    refine ⟨rest, ?_, fun box hbox' ↦ absurd (hnone'.symm.trans hbox') nofun⟩
    rw [accepted, received, trace_concat, trace_concat, h.opened.acceptedAt_of_none hnone,
      receivedAt_of_none hnone, List.append_nil, List.append_nil]
    exact hbalance

theorem Account.concat_of_some (h : Account id r start during)
    (hbox : (start.run during).mailboxes.get? id = some box) (e : Event) :
    Account id r start (during ++ [e]) := by
  have hnext : (start.run (during ++ [e])).mailboxes.get? id =
      box.next (start.run during).capacity id e := by
    rw [run_append]
    exact h.opened.get?_step hbox e
  have hdropped : .drop id ∉ during := fun hdrop ↦ nomatch hbox.symm.trans (h.dropped.2 hdrop)
  obtain ⟨hrecipient, hopen⟩ := h.kept box hbox
  obtain ⟨rest, hbalance, hrest⟩ := h.balance
  refine ⟨?_, fun box' hbox' ↦ ?_, ?_, ?_⟩
  · rw [run_append]
    exact h.opened.step e
  · rw [hnext] at hbox'
    refine ⟨(Mailbox.recipient_next hbox').trans hrecipient, ?_⟩
    rw [Mailbox.isOpen_next hbox', hopen, List.forall_mem_append, List.forall_mem_singleton]
  · rw [hnext, Mailbox.next_eq_none, List.mem_append, List.mem_singleton, eq_comm]
    exact (or_iff_right hdropped).symm
  · rw [accepted, received, trace_concat, trace_concat, ← accepted, ← received, hbalance,
      ← hrest box hbox, List.append_assoc]
    cases hbox' : box.next (start.run during).capacity id e with
    | none =>
      -- the mailbox was dropped with what it held
      refine ⟨box.pending ++ (start.run during).acceptedAt id e, ?_, fun box' hsome ↦ ?_⟩
      · have hreceived : (start.run during).receivedAt id e = [] := by
          rw [Mailbox.next_eq_none.1 hbox']
          rfl
        rw [hreceived, List.append_nil]
      · exact nomatch (hnext.trans hbox').symm.trans hsome
    | some box' =>
      refine ⟨box'.pending, ?_, fun box'' hsome ↦ ?_⟩
      · rw [h.opened.conserved hbox hbox', List.append_assoc]
      · rw [Option.some.inj (hsome.symm.trans (hnext.trans hbox'))]

/-- Whatever happens after it was opened, the accounts of a subscription balance. -/
theorem account_run (h : start.Opened id)
    (hbox : start.mailboxes.get? id = some ⟨r, [], true⟩) (during : List Event) :
    Account id r start during := by
  -- from the end, since the balance is about what the mailbox holds now
  induction during using List.reverseRecOn with
  | nil => exact account_nil h hbox
  | append_singleton during e ih =>
    cases hbox : (start.run during).mailboxes.get? id with
    | none => exact ih.concat_of_none hbox e
    | some box => exact ih.concat_of_some hbox e

theorem Account.bounded (h : Account id r start during) :
    ((start.run during).pendingOf id).length ≤ start.capacity := by
  cases hbox : (start.run during).mailboxes.get? id with
  | none =>
    rw [pendingOf_eq_nil hbox]
    exact Nat.zero_le _
  | some box =>
    rw [pendingOf_eq hbox, ← capacity_run during]
    exact h.opened.sound.room id box hbox

/-- A mailbox that is not there was closed. -/
theorem Account.closes_of_none (h : Account id r start during)
    (hnone : (start.run during).mailboxes.get? id = none) : ¬∀ e ∈ during, ¬e.Closes id :=
  fun hopen ↦ hopen _ (h.dropped.1 hnone) (.inr rfl)

theorem Account.accepts (h : Account id r start during) (e : Event) :
    (start.run during).acceptedAt id e =
      if (∀ e ∈ during, ¬e.Closes id) ∧ ((start.run during).pendingOf id).length < start.capacity
      then e.publishedFor r else [] := by
  cases hbox : (start.run during).mailboxes.get? id with
  | none =>
    rw [h.opened.acceptedAt_of_none hbox, if_neg fun hopen ↦ h.closes_of_none hbox hopen.1]
  | some box =>
    obtain ⟨hrecipient, hopen⟩ := h.kept box hbox
    rw [h.opened.acceptedAt_eq hbox, pendingOf_eq hbox, capacity_run, hrecipient]
    exact if_congr (and_congr_left' hopen) rfl rfl

theorem Account.receives (h : Account id r start during) :
    ((start.run during).receive id).1 = match (start.run during).pendingOf id with
      | n :: _ => .item n
      | [] => if ∀ e ∈ during, ¬e.Closes id then .pending else .closed := by
  rw [receive]
  cases hbox : (start.run during).mailboxes.get? id with
  | none =>
    rw [pendingOf_eq_nil hbox]
    exact (if_neg (h.closes_of_none hbox)).symm
  | some box =>
    obtain ⟨-, hopen⟩ := h.kept box hbox
    rw [pendingOf_eq hbox]
    cases hpending : box.pending with
    | nil =>
      simp only [hpending]
      exact if_congr hopen rfl rfl
    | cons n rest => simp only [hpending]

/-- Reading takes out what is pending, from the front. -/
theorem pendingOf_receives (b : Broker) (id k : Nat) :
    (b.run (List.replicate k (.receive id))).pendingOf id = (b.pendingOf id).drop k := by
  induction k generalizing b with
  | zero => rfl
  | succ k ih =>
    have hreceive : (b.step (.receive id)).pendingOf id = (b.pendingOf id).tail := by
      rw [pendingOf, pendingOf]
      show (((b.receive id).2.mailboxes.get? id).map _).getD [] = _
      rw [get?_receive]
      cases b.mailboxes.get? id <;> simp
    rw [List.replicate_succ, ← List.drop_tail, ← hreceive]
    exact ih _

/-! ## What others do -/

/-- An event as a subscription of `r` sees it: what is published for `r`, and what is done to the
subscription itself, which is number zero to itself. -/
def Event.seenBy (r : Int) (id : Nat) : Event → Option Event
  | .subscribe _ => none
  | .publish r' n => if r' = r then some (.publish r n) else none
  | .receive i => if i = id then some (.receive 0) else none
  | .unsubscribe i => if i = id then some (.unsubscribe 0) else none
  | .drop i => if i = id then some (.drop 0) else none

theorem next_of_unseen (he : e.seenBy box.recipient id = none) :
    box.next capacity id e = some box := by
  cases e with
  | subscribe => rfl
  | publish r n =>
    have hr : r ≠ box.recipient := fun hr ↦ nomatch (if_pos hr).symm.trans he
    exact congrArg some (if_neg fun htakes ↦ hr htakes.2.1.symm)
  | receive i | unsubscribe i =>
    have hi : i ≠ id := fun hi ↦ nomatch (if_pos hi).symm.trans he
    exact congrArg some (if_neg hi)
  | drop i =>
    have hi : i ≠ id := fun hi ↦ nomatch (if_pos hi).symm.trans he
    exact if_neg hi

theorem next_of_seen {e' : Event} (he : e.seenBy box.recipient id = some e') :
    box.next capacity id e = box.next capacity 0 e' := by
  cases e with
  | subscribe => cases he
  | publish | receive | unsubscribe | drop =>
    obtain ⟨hmine, he⟩ := Option.ite_none_right_eq_some.1 he
    obtain rfl := Option.some.inj he
    simp [Mailbox.next, hmine]

/-- The mailbox of a subscription is that of the first subscription of another broker. -/
structure Twins (r : Int) (id : Nat) (b b' : Broker) : Prop where
  left : b.Opened id
  right : b'.Opened 0
  capacity : b.capacity = b'.capacity
  same : b.mailboxes.get? id = b'.mailboxes.get? 0
  recipient : ∀ box, b.mailboxes.get? id = some box → box.recipient = r

theorem Twins.pendingOf_eq (h : Twins r id b b') : b.pendingOf id = b'.pendingOf 0 := by
  rw [pendingOf, h.same, pendingOf]

theorem Twins.recipient_step (h : Twins r id b b') (e : Event) (box : Mailbox)
    (hbox : (b.step e).mailboxes.get? id = some box) : box.recipient = r := by
  rw [h.left.sound.get?_step h.left.fits h.left.lt] at hbox
  obtain ⟨box', hbox', hnext⟩ := Option.bind_eq_some_iff.1 hbox
  exact (Mailbox.recipient_next hnext).trans (h.recipient box' hbox')

/-- What a subscription does not see changes nothing for it. -/
theorem Twins.skip (h : Twins r id b b') (he : e.seenBy r id = none) :
    Twins r id (b.step e) b' where
  left := h.left.step e
  right := h.right
  capacity := (capacity_step e).trans h.capacity
  same := by
    rw [← h.same]
    cases hbox : b.mailboxes.get? id with
    | none => exact h.left.get?_step_of_none hbox e
    | some box =>
      rw [h.left.get?_step hbox]
      exact next_of_unseen (h.recipient box hbox ▸ he)
  recipient := h.recipient_step e

/-- What a subscription sees does the same to it in both brokers. -/
theorem Twins.step {e' : Event} (h : Twins r id b b') (he : e.seenBy r id = some e') :
    Twins r id (b.step e) (b'.step e') where
  left := h.left.step e
  right := h.right.step e'
  capacity := by rw [capacity_step, capacity_step, h.capacity]
  same := by
    cases hbox : b.mailboxes.get? id with
    | none =>
      rw [h.left.get?_step_of_none hbox, h.right.get?_step_of_none (h.same.symm.trans hbox)]
    | some box =>
      rw [h.left.get?_step hbox, h.right.get?_step (h.same.symm.trans hbox), ← h.capacity]
      exact next_of_seen (h.recipient box hbox ▸ he)
  recipient := h.recipient_step e

/-- What comes of a run for a subscription comes of what it sees. -/
theorem trace_seenBy {out out' : Broker → Event → List Notification}
    (hskip : ∀ {b b' e}, Twins r id b b' → e.seenBy r id = none → out b e = [])
    (hstep : ∀ {b b' e e'}, Twins r id b b' → e.seenBy r id = some e' → out b e = out' b' e')
    (h : Twins r id b b') (es : List Event) :
    trace out b es = trace out' b' (es.filterMap (Event.seenBy r id)) := by
  induction es generalizing b b' with
  | nil => rfl
  | cons e es ih =>
    cases he : e.seenBy r id with
    | none =>
      rw [List.filterMap_cons_none he, trace, hskip h he]
      exact ih (h.skip he)
    | some e' =>
      rw [List.filterMap_cons_some he, trace, trace, hstep h he, ih (h.step he)]

theorem Twins.accepted_eq (h : Twins r id b b') (es : List Event) :
    accepted id b es = accepted 0 b' (es.filterMap (Event.seenBy r id)) := by
  refine trace_seenBy (fun h he ↦ ?_) (fun h he ↦ ?_) h es
  · rw [acceptedAt, (h.skip he).pendingOf_eq, h.pendingOf_eq]
    exact List.drop_length
  · rw [acceptedAt, (h.step he).pendingOf_eq, h.pendingOf_eq, acceptedAt]

theorem Twins.received_eq (h : Twins r id b b') (es : List Event) :
    received id b es = received 0 b' (es.filterMap (Event.seenBy r id)) := by
  refine trace_seenBy (fun {_ _ e} _ he ↦ ?_) (fun {b b' e e'} h he ↦ ?_) h es
  · cases e with
    | receive i => exact if_neg fun hi ↦ nomatch (if_pos hi).symm.trans he
    | subscribe | publish | unsubscribe | drop => rfl
  · cases e with
    | subscribe => cases he
    | receive i =>
      obtain ⟨hi, he⟩ := Option.ite_none_right_eq_some.1 he
      obtain rfl := Option.some.inj he
      rw [receivedAt, if_pos hi, hi, items_receive, h.pendingOf_eq, ← items_receive]
      rfl
    | publish | unsubscribe | drop =>
      obtain ⟨-, he⟩ := Option.ite_none_right_eq_some.1 he
      obtain rfl := Option.some.inj he
      rfl

/-! ## Delivery -/

/-- What a subscription of `r` that got the number `id` when it was opened in `start` may rely on,
whatever happens during the rest of the run. -/
structure Delivers (capacity : Nat) (r : Int) (id : Nat) (start : Broker) : Prop where
  /-- It accepts what is published for `r` before it ends while its mailbox has room, once, and
  nothing else. -/
  accepts : ∀ during e, (start.run during).acceptedAt id e =
    if (∀ e ∈ during, ¬e.Closes id) ∧
        ((start.run during).pendingOf id).length < max capacity 1
    then e.publishedFor r else []
  bounded : ∀ during, ((start.run during).pendingOf id).length ≤ max capacity 1
  /-- What was accepted and not received is pending, until it is dropped. -/
  balance : ∀ during, .drop id ∉ during →
    accepted id start during = received id start during ++ (start.run during).pendingOf id
  inOrder : ∀ during, received id start during <+: accepted id start during
  /-- What is pending can be read.  The end comes after it and only to a subscription that ended. -/
  receives : ∀ during, ((start.run during).receive id).1 =
    match (start.run during).pendingOf id with
    | n :: _ => .item n
    | [] => if ∀ e ∈ during, ¬e.Closes id then .pending else .closed
  /-- A subscription that ended hands out what is pending, item by item, and then reports the
  end. -/
  drains : ∀ during, (∃ e ∈ during, e.Closes id) → ∀ k,
    ((start.run (during ++ List.replicate k (.receive id))).receive id).1 =
      match ((start.run during).pendingOf id)[k]? with
      | some n => .item n
      | none => .closed
  /-- It gets what it would get as the only subscription of a broker in which only that happens
  which it sees. -/
  alone : ∀ during,
    accepted id start during = accepted 0 ((new capacity).step (.subscribe r))
      (during.filterMap (Event.seenBy r id)) ∧
    received id start during = received 0 ((new capacity).step (.subscribe r))
      (during.filterMap (Event.seenBy r id))

theorem Account.drains (h : ∀ during, Account id r start during)
    (hends : ∃ e ∈ during, e.Closes id) (k : Nat) :
    ((start.run (during ++ List.replicate k (.receive id))).receive id).1 =
      match ((start.run during).pendingOf id)[k]? with
      | some n => .item n
      | none => .closed := by
  obtain ⟨e, he, hcloses⟩ := hends
  have hpending : (start.run (during ++ List.replicate k (.receive id))).pendingOf id =
      ((start.run during).pendingOf id).drop k := by
    rw [run_append, pendingOf_receives]
  rw [(h _).receives, hpending, ← List.head?_drop]
  cases ((start.run during).pendingOf id).drop k with
  | nil => exact if_neg fun hopen ↦ hopen e (List.mem_append_left _ he) hcloses
  | cons n rest => rfl

theorem opened_register (h : b.Sound) (hcapacity : b.capacity < tooLarge) (r : Int) :
    (b.register r).2.Opened b.opened where
  sound := h.register r
  fits := hcapacity
  lt := Nat.lt_succ_self _

theorem get?_register (b : Broker) (r : Int) :
    (b.register r).2.mailboxes.get? b.opened = some ⟨r, [], true⟩ := Keyed.get?_put_self

theorem twins_register (h : b.Sound) (hcapacity : b.capacity < tooLarge) (h' : b'.Sound)
    (hopened : b'.opened = 0) (hsame : b.capacity = b'.capacity) (r : Int) :
    Twins r b.opened (b.register r).2 (b'.register r).2 where
  left := opened_register h hcapacity r
  right := hopened ▸ opened_register h' (hsame ▸ hcapacity) r
  capacity := hsame
  same := by rw [get?_register, ← hopened, get?_register]
  recipient box hbox := by
    obtain rfl := Option.some.inj (hbox.symm.trans (get?_register b r))
    rfl

theorem delivers_register (h : b.Sound) (hcapacity : b.capacity < tooLarge)
    (heq : b.capacity = max capacity 1) (r : Int) :
    Delivers capacity r b.opened (b.register r).2 := by
  have haccount := account_run (opened_register h hcapacity r) (get?_register b r)
  have htwins : Twins r b.opened (b.register r).2 ((new capacity).step (.subscribe r)) := by
    have hsame : b.capacity = (new capacity).capacity := heq
    rw [step_subscribe (hsame ▸ hcapacity)]
    exact twins_register h hcapacity (sound_new capacity) rfl hsame r
  rw [show b.capacity = (b.register r).2.capacity from rfl] at heq
  refine ⟨fun during e ↦ ?_, fun during ↦ ?_, fun during hdrop ↦ ?_, fun during ↦ ?_,
    fun during ↦ (haccount during).receives, fun during hends ↦ Account.drains haccount hends,
    fun during ↦ ⟨htwins.accepted_eq during, htwins.received_eq during⟩⟩
  · rw [(haccount during).accepts, heq]
  · exact heq ▸ (haccount during).bounded
  · obtain ⟨rest, hbalance, hrest⟩ := (haccount during).balance
    obtain ⟨box, hbox⟩ := Option.ne_none_iff_exists'.1 fun hnone ↦
      hdrop ((haccount during).dropped.1 hnone)
    rw [hbalance, pendingOf_eq hbox, hrest box hbox]
  · obtain ⟨rest, hbalance, -⟩ := (haccount during).balance
    exact ⟨rest, hbalance.symm⟩

/-- A publication counts the subscriptions that accept it. -/
theorem Sound.fst_publish (h : b.Sound) (hcapacity : b.capacity < tooLarge) (r : Int)
    (n : Notification) : (b.publish r n).1 =
      (List.range b.opened).countP fun id ↦ b.acceptedAt id (.publish r n) ≠ [] := by
  rw [publish, fst_offerAll n (h.nodup r), List.countP_eq_length_filter,
    List.countP_eq_length_filter]
  -- neither list repeats anything, so it is enough that they have the same members
  refine List.Perm.length_eq ((List.perm_ext_iff_of_nodup ((h.nodup r).filter _)
    (List.nodup_range.filter _)).2 fun id ↦ ?_)
  rw [List.mem_filter, List.mem_filter, List.mem_range, decide_eq_true_eq]
  cases hbox : b.mailboxes.get? id with
  | none =>
    have hlisted : id ∉ b.openFor r := by
      intro hmem
      obtain ⟨box, hbox', -⟩ := (h.listed r id).1 hmem
      simp [hbox] at hbox'
    refine iff_of_false (fun hmem ↦ hlisted hmem.1) fun hmem ↦ hmem.2 ?_
    exact Opened.acceptedAt_of_none ⟨h, hcapacity, hmem.1⟩ hbox _
  | some box =>
    have hid : id < b.opened := h.numbered id box hbox
    have haccepted : b.acceptedAt id (.publish r n) ≠ [] ↔ box.Takes b.capacity r := by
      rw [Opened.acceptedAt_eq ⟨h, hcapacity, hid⟩ hbox, publishedFor_publish]
      split <;> simp [*]
    rw [h.mem_openFor hbox, hasRoom, hbox, Option.any_some, Bool.and_eq_true,
      decide_eq_true_eq, haccepted]
    constructor
    · rintro ⟨⟨hr, hopen⟩, -, hroom⟩
      exact ⟨hid, hopen, hr, hroom⟩
    · rintro ⟨-, hopen, hr, hroom⟩
      exact ⟨⟨hr, hopen⟩, hopen, hroom⟩

/-- **Every subscription gets what it should, and nothing else**, whatever happened before it was
opened and happens afterwards; and a publication counts the subscriptions that accept it. -/
theorem delivery (capacity : Nat) (hcapacity : capacity < tooLarge) (es : List Event) :
    (∀ r, ∃ start,
      ((new capacity).run es).subscribe r = .ok (((new capacity).run es).opened, start) ∧
      Delivers capacity r ((new capacity).run es).opened start) ∧
    ∀ r n, (((new capacity).run es).publish r n).1 =
      (List.range ((new capacity).run es).opened).countP fun id ↦
        ((new capacity).run es).acceptedAt id (.publish r n) ≠ [] := by
  have hsound : ((new capacity).run es).Sound := (sound_new capacity).run es
  have heq : ((new capacity).run es).capacity = max capacity 1 := capacity_run es
  have hfits : ((new capacity).run es).capacity < tooLarge :=
    heq ▸ Nat.max_lt.2 ⟨hcapacity, by decide⟩
  refine ⟨fun r ↦ ⟨_, if_pos hfits, delivers_register hsound hfits heq r⟩, fun r n ↦ ?_⟩
  exact hsound.fst_publish hfits r n

theorem delivery_second_listener :
    2 < tooLarge ∧
    (∃ start, ((new 2).run [.subscribe 1]).subscribe 1 = .ok (1, start) ∧ Delivers 2 1 1 start) ∧
    ∀ n, (((new 2).run [.subscribe 1, .subscribe 1]).publish 1 n).1 = [0, 1].countP fun id ↦
      ((new 2).run [.subscribe 1, .subscribe 1]).acceptedAt id (.publish 1 n) ≠ [] :=
  ⟨by decide, (delivery 2 (by decide) [.subscribe 1]).1 1,
    (delivery 2 (by decide) [.subscribe 1, .subscribe 1]).2 1⟩

/-- The mailbox of one who does not read is full, while the other one still listens. -/
example (first second third : Notification) :
    (((new 2).run [.subscribe 1, .subscribe 1, .publish 1 first, .receive 1, .publish 1 second,
      .receive 1]).publish 1 third).1 = 1 := rfl

end Broker

end Microblog
