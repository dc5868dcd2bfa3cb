import Microblog.Live.Broker
import Microblog.Proofs.Keyed

/-!
# Each mailbox on its own

The broker keeps a registry that all subscriptions share, and every publication goes through it.
`Broker.Sound` says what the registry has to do with the mailboxes: it lists, for each recipient,
the open mailboxes of that recipient, each once.  While that is so, no mailbox notices any other
one.  What an event does to a mailbox can be said without the registry (`Mailbox.next`), and
`Broker.Sound.get?_step` says that this is what the broker does.

So the history of a mailbox is the fold of `Mailbox.next` over the events, of which those that are
meant for others do nothing.
-/

set_option autoImplicit false

namespace Microblog

/-! ## Events -/

/-- What may happen to a broker. -/
inductive Broker.Event where
  | subscribe (recipient : Int)
  | publish (recipient : Int) (n : Notification)
  | receive (mailbox : Nat)
  | unsubscribe (mailbox : Nat)
  | drop (mailbox : Nat)
deriving DecidableEq

namespace Broker

/-- The event ends the subscription with the number `id`. -/
def Event.Closes (e : Event) (id : Nat) : Prop := e = .unsubscribe id ∨ e = .drop id

instance (e : Event) (id : Nat) : Decidable (e.Closes id) :=
  inferInstanceAs (Decidable (_ ∨ _))

/-- The broker after an event.  A subscription that would be too large is refused. -/
def step (b : Broker) : Event → Broker
  | .subscribe r => match b.subscribe r with
    | .ok (_, b') => b'
    | .error _ => b
  | .publish r n => (b.publish r n).2
  | .receive id => (b.receive id).2
  | .unsubscribe id => b.unsubscribe id
  | .drop id => b.drop id

/-- The broker after some events, one after the other. -/
def run (b : Broker) (es : List Event) : Broker := es.foldl step b

end Broker

namespace Mailbox

/-- The mailbox takes what is published for `r`: it is open, it is one of `r`, and it has room. -/
def Takes (capacity : Nat) (r : Int) (box : Mailbox) : Prop :=
  box.isOpen = true ∧ box.recipient = r ∧ box.pending.length < capacity

instance (capacity : Nat) (r : Int) (box : Mailbox) : Decidable (box.Takes capacity r) :=
  inferInstanceAs (Decidable (_ ∧ _ ∧ _))

/-- A mailbox with one notification more. -/
def push (n : Notification) (box : Mailbox) : Mailbox := { box with pending := box.pending ++ [n] }

/-- A mailbox to which something is offered. -/
def offered (capacity : Nat) (n : Notification) (box : Mailbox) : Mailbox :=
  if box.isOpen = true ∧ box.pending.length < capacity then box.push n else box

/-- The mailbox with the number `id` after an event, unless it is forgotten. -/
def next (capacity id : Nat) (box : Mailbox) : Broker.Event → Option Mailbox
  | .subscribe _ => some box
  | .publish r n => some (if box.Takes capacity r then box.push n else box)
  | .receive i => some (if i = id then { box with pending := box.pending.tail } else box)
  | .unsubscribe i => some (if i = id then { box with isOpen := false } else box)
  | .drop i => if i = id then none else some box

section Next

variable {capacity id : Nat} {box box' : Mailbox} {e : Broker.Event}

/-- A mailbox keeps its recipient. -/
theorem recipient_next (h : box.next capacity id e = some box') :
    box'.recipient = box.recipient := by
  cases e with
  | subscribe => cases h; rfl
  | publish | receive | unsubscribe =>
    obtain rfl := Option.some.inj h
    split <;> rfl
  | drop i =>
    obtain ⟨-, h⟩ := Option.ite_none_left_eq_some.1 h
    obtain rfl := Option.some.inj h
    rfl

/-- A mailbox is forgotten when its subscription is dropped, and only then. -/
theorem next_eq_none : box.next capacity id e = none ↔ e = .drop id := by
  cases e with
  | subscribe | publish | receive | unsubscribe => exact ⟨nofun, nofun⟩
  | drop i =>
    rw [next, Broker.Event.drop.injEq]
    split <;> simp [*]

theorem exists_next (box : Mailbox) (capacity : Nat) (h : ¬e.Closes id) :
    ∃ box', box.next capacity id e = some box' :=
  Option.ne_none_iff_exists'.1 fun hnone ↦ h (.inr (next_eq_none.1 hnone))

/-- Only what ends a subscription closes its mailbox. -/
theorem isOpen_next (h : box.next capacity id e = some box') :
    box'.isOpen = true ↔ box.isOpen = true ∧ ¬e.Closes id := by
  cases e with
  | subscribe => cases h; simp [Broker.Event.Closes]
  | publish | receive =>
    obtain rfl := Option.some.inj h
    simp only [Broker.Event.Closes, reduceCtorEq, or_self, not_false_eq_true, and_true]
    split <;> rfl
  | unsubscribe i =>
    obtain rfl := Option.some.inj h
    simp only [Broker.Event.Closes, reduceCtorEq, or_false, Broker.Event.unsubscribe.injEq]
    split <;> simp [*]
  | drop i =>
    obtain ⟨hi, h⟩ := Option.ite_none_left_eq_some.1 h
    obtain rfl := Option.some.inj h
    simp [Broker.Event.Closes, hi]

/-- A mailbox never holds more than it may. -/
theorem length_next (h : box.next capacity id e = some box')
    (hroom : box.pending.length ≤ capacity) : box'.pending.length ≤ capacity := by
  cases e with
  | subscribe => cases h; exact hroom
  | publish r n =>
    obtain rfl := Option.some.inj h
    split
    · rename_i htakes
      rw [push, List.length_append, List.length_singleton]
      exact htakes.2.2
    · exact hroom
  | receive i =>
    obtain rfl := Option.some.inj h
    split
    · rw [List.length_tail]
      exact Nat.le_trans (Nat.sub_le _ _) hroom
    · exact hroom
  | unsubscribe i =>
    obtain rfl := Option.some.inj h
    split <;> exact hroom
  | drop i =>
    obtain ⟨-, h⟩ := Option.ite_none_left_eq_some.1 h
    obtain rfl := Option.some.inj h
    exact hroom

end Next

end Mailbox

namespace Broker

variable {b : Broker}

/-! ## Offers -/

theorem offer_eq (n : Notification) (id : Nat) :
    ∃ mailboxes, (b.offer n id).2 = { b with mailboxes } := by
  rw [offer]
  split
  · split
    · exact ⟨_, rfl⟩
    · exact ⟨_, rfl⟩
  · exact ⟨_, rfl⟩

theorem get?_offer (n : Notification) (id i : Nat) :
    (b.offer n id).2.mailboxes.get? i =
      if i = id then (b.mailboxes.get? i).map (Mailbox.offered b.capacity n)
      else b.mailboxes.get? i := by
  rw [offer]
  split
  · rename_i box hbox
    split
    · rename_i hroom
      rw [Keyed.get?_put]
      split
      · rename_i hi
        rw [hi, hbox, Option.map_some, Mailbox.offered, if_pos hroom]
        rfl
      · rfl
    · rename_i hfull
      split
      · rename_i hi
        rw [hi, hbox, Option.map_some, Mailbox.offered, if_neg hfull]
      · rfl
  · rename_i hnone
    split
    · rename_i hi
      rw [hi, hnone, Option.map_none]
    · rfl

theorem offerAll_eq (n : Notification) (ids : List Nat) :
    ∃ mailboxes, (offerAll n ids b).2 = { b with mailboxes } := by
  induction ids generalizing b with
  | nil => exact ⟨_, rfl⟩
  | cons id ids ih =>
    obtain ⟨mailboxes, hoffer⟩ := b.offer_eq n id
    obtain ⟨mailboxes', htail⟩ := @ih (b.offer n id).2
    rw [hoffer] at htail
    refine ⟨mailboxes', ?_⟩
    show (offerAll n ids (b.offer n id).2).2 = _
    rw [hoffer]
    exact htail

/-- Every mailbox on the list is offered the notification once. -/
theorem get?_offerAll (n : Notification) {ids : List Nat} (hids : ids.Nodup) (i : Nat) :
    (offerAll n ids b).2.mailboxes.get? i =
      if i ∈ ids then (b.mailboxes.get? i).map (Mailbox.offered b.capacity n)
      else b.mailboxes.get? i := by
  induction ids generalizing b with
  | nil => rfl
  | cons id ids ih =>
    obtain ⟨hid, hids⟩ := List.nodup_cons.1 hids
    obtain ⟨mailboxes, hoffer⟩ := b.offer_eq n id
    have hcapacity : (b.offer n id).2.capacity = b.capacity := by rw [hoffer]
    show (offerAll n ids (b.offer n id).2).2.mailboxes.get? i = _
    rw [ih hids, hcapacity, get?_offer]
    by_cases hi : i = id
    · subst hi
      rw [if_neg hid, if_pos rfl, if_pos List.mem_cons_self]
    · rw [if_neg hi]
      simp only [List.mem_cons, hi, false_or]

/-- Whether a mailbox accepts an offer. -/
def hasRoom (b : Broker) (id : Nat) : Bool :=
  (b.mailboxes.get? id).any fun box ↦ box.isOpen && decide (box.pending.length < b.capacity)

theorem fst_offer (n : Notification) (id : Nat) : (b.offer n id).1 = b.hasRoom id := by
  rw [offer, hasRoom]
  split
  · rename_i box hbox
    rw [hbox, Option.any_some]
    split
    · rename_i hroom
      rw [hroom.1, decide_eq_true hroom.2, Bool.and_self]
    · rename_i hfull
      rw [eq_comm, Bool.and_eq_false_iff, decide_eq_false_iff_not]
      by_cases hopen : box.isOpen = true
      · exact .inr fun hroom ↦ hfull ⟨hopen, hroom⟩
      · exact .inl (Bool.eq_false_iff.2 hopen)
  · rename_i hnone
    rw [hnone, Option.any_none]

/-- A publication counts the mailboxes that accept it. -/
theorem fst_offerAll (n : Notification) {ids : List Nat} (hids : ids.Nodup) :
    (offerAll n ids b).1 = ids.countP b.hasRoom := by
  induction ids generalizing b with
  | nil => rfl
  | cons id ids ih =>
    obtain ⟨hid, hids⟩ := List.nodup_cons.1 hids
    obtain ⟨mailboxes, hoffer⟩ := b.offer_eq n id
    have htail : (offerAll n ids (b.offer n id).2).1 = ids.countP b.hasRoom := by
      rw [ih hids]
      refine List.countP_congr fun i hi ↦ ?_
      have hne : i ≠ id := fun h ↦ hid (h ▸ hi)
      rw [hasRoom, hasRoom, get?_offer, if_neg hne, hoffer]
    show (if (b.offer n id).1 then (offerAll n ids (b.offer n id).2).1 + 1
      else (offerAll n ids (b.offer n id).2).1) = _
    rw [htail, fst_offer, List.countP_cons]
    split <;> rfl

/-! ## The registry -/

/-- The registry lists the open mailboxes, each once with its recipient, and no mailbox is too
full. -/
structure Sound (b : Broker) : Prop where
  /-- Mailboxes are numbered in the order in which they were opened. -/
  numbered : ∀ id box, b.mailboxes.get? id = some box → id < b.opened
  listed : ∀ r id, id ∈ b.openFor r ↔
    ∃ box, b.mailboxes.get? id = some box ∧ box.recipient = r ∧ box.isOpen = true
  nodup : ∀ r, (b.openFor r).Nodup
  room : ∀ id box, b.mailboxes.get? id = some box → box.pending.length ≤ b.capacity

theorem sound_new (capacity : Nat) : Sound (.new capacity) where
  numbered _ _ h := nomatch h
  listed _ _ := ⟨fun h ↦ (nomatch h), fun ⟨_, h, _⟩ ↦ nomatch h⟩
  nodup _ := List.nodup_nil
  room _ _ h := nomatch h

theorem openFor_put {registry : Keyed Int (List Nat)} {mailboxes : Keyed Nat Mailbox}
    {capacity opened : Nat} {r r' : Int} {ids : List Nat} :
    (Broker.mk capacity opened (registry.put r ids) mailboxes).openFor r' =
      if r' = r then ids else (registry.get? r').getD [] := by
  rw [openFor, Keyed.get?_put]
  split <;> rfl

theorem openFor_unregister (r r' : Int) (id : Nat) :
    (b.unregister r id).openFor r' =
      if r' = r then (b.openFor r).filter (· ≠ id) else b.openFor r' := by
  rw [unregister]
  split
  · rename_i hnone
    rw [openFor, Keyed.get?_remove]
    split
    · exact hnone.symm
    · rfl
  · rw [openFor_put]
    rfl

theorem unregister_eq (r : Int) (id : Nat) :
    ∃ registry, b.unregister r id = { b with registry } := by
  rw [unregister]
  split
  · exact ⟨_, rfl⟩
  · exact ⟨_, rfl⟩

/-! ## One mailbox at a time -/

theorem Sound.mem_openFor (h : b.Sound) {id : Nat} {box : Mailbox}
    (hbox : b.mailboxes.get? id = some box) (r : Int) :
    id ∈ b.openFor r ↔ box.recipient = r ∧ box.isOpen = true := by
  rw [h.listed, hbox]
  constructor
  · rintro ⟨box', hbox', hrest⟩
    obtain rfl := Option.some.inj hbox'
    exact hrest
  · exact fun hrest ↦ ⟨box, rfl, hrest⟩

/-- No mailbox is one of two recipients. -/
theorem Sound.recipient_unique (h : b.Sound) {id : Nat} {r r' : Int} (hid : id ∈ b.openFor r)
    (hid' : id ∈ b.openFor r') : r = r' := by
  obtain ⟨box, hbox, rfl, -⟩ := (h.listed r id).1 hid
  exact ((h.mem_openFor hbox r').1 hid').1

/-- A publication is an offer to the mailboxes that take it, and to no other. -/
theorem Sound.get?_publish (h : b.Sound) (r : Int) (n : Notification) (id : Nat) :
    (b.publish r n).2.mailboxes.get? id = (b.mailboxes.get? id).map fun box ↦
      if box.Takes b.capacity r then box.push n else box := by
  rw [publish, get?_offerAll n (h.nodup r)]
  cases hbox : b.mailboxes.get? id with
  | none => split <;> rfl
  | some box =>
    have hlisted := h.mem_openFor hbox r
    rw [Option.map_some, Option.map_some]
    by_cases hmem : id ∈ b.openFor r
    · obtain ⟨hrecipient, hopen⟩ := hlisted.1 hmem
      rw [if_pos hmem, Mailbox.offered]
      have hroom : box.isOpen = true ∧ box.pending.length < b.capacity ↔
          box.Takes b.capacity r :=
        ⟨fun hroom ↦ ⟨hopen, hrecipient, hroom.2⟩, fun htakes ↦ ⟨htakes.1, htakes.2.2⟩⟩
      exact congrArg some (if_congr hroom rfl rfl)
    · rw [if_neg hmem, if_neg fun htakes ↦ hmem (hlisted.2 ⟨htakes.2.1, htakes.1⟩)]

theorem get?_receive (id i : Nat) :
    (b.receive i).2.mailboxes.get? id = (b.mailboxes.get? id).map fun box ↦
      if i = id then { box with pending := box.pending.tail } else box := by
  rw [receive]
  split
  · rename_i box hbox
    split
    · rename_i n rest hpending
      rw [Keyed.get?_put]
      by_cases hi : id = i
      · rw [if_pos hi, hi, hbox, Option.map_some, if_pos rfl, hpending, List.tail_cons]
      · rw [if_neg hi]
        simp [Ne.symm hi]
    · rename_i hpending
      by_cases hi : i = id
      · rw [← hi, hbox, Option.map_some, if_pos rfl, hpending, List.tail_nil, ← hpending]
      · simp [hi]
  · rename_i hnone
    by_cases hi : i = id
    · rw [← hi, hnone, Option.map_none]
    · simp [hi]

theorem get?_unsubscribe (id i : Nat) :
    (b.unsubscribe i).mailboxes.get? id = (b.mailboxes.get? id).map fun box ↦
      if i = id then { box with isOpen := false } else box := by
  rw [unsubscribe]
  split
  · rename_i box hbox
    split
    · obtain ⟨registry, hregistry⟩ := b.unregister_eq box.recipient i
      show ((b.unregister box.recipient i).mailboxes.put i _).get? id = _
      rw [hregistry, Keyed.get?_put]
      by_cases hi : id = i
      · rw [if_pos hi, hi, hbox, Option.map_some, if_pos rfl]
      · rw [if_neg hi]
        simp [Ne.symm hi]
    · rename_i hclosed
      by_cases hi : i = id
      · rw [← hi, hbox, Option.map_some, if_pos rfl, ← Bool.eq_false_iff.2 hclosed]
      · simp [hi]
  · rename_i hnone
    by_cases hi : i = id
    · rw [← hi, hnone, Option.map_none]
    · simp [hi]

theorem get?_drop (id i : Nat) :
    (b.drop i).mailboxes.get? id = if i = id then none else b.mailboxes.get? id := by
  show ((b.unsubscribe i).mailboxes.remove i).get? id = _
  rw [Keyed.get?_remove, get?_unsubscribe]
  by_cases hi : i = id
  · rw [if_pos hi, if_pos hi.symm]
  · rw [if_neg hi, if_neg (Ne.symm hi)]
    simp [hi]

/-- A subscription opens a mailbox with the next number. -/
theorem step_subscribe (hcapacity : b.capacity < tooLarge) (r : Int) :
    b.step (.subscribe r) = (b.register r).2 := by
  rw [step, subscribe, if_pos hcapacity]

theorem of_subscribe {r : Int} {id : Nat} {b' : Broker} (h : b.subscribe r = .ok (id, b')) :
    b.capacity < tooLarge ∧ id = b.opened := by
  rw [subscribe] at h
  split at h
  · rename_i hcapacity
    obtain ⟨rfl, -⟩ := Prod.mk.inj (Except.ok.inj h)
    exact ⟨hcapacity, rfl⟩
  · cases h

/-- A subscription opens a mailbox, or is refused. -/
theorem step_subscribe_eq_or (b : Broker) (r : Int) :
    b.step (.subscribe r) = (b.register r).2 ∨ b.step (.subscribe r) = b := by
  by_cases hcapacity : b.capacity < tooLarge
  · exact .inl (step_subscribe hcapacity r)
  · refine .inr ?_
    rw [step, subscribe, if_neg hcapacity]

/-- An event that opens no mailbox does to each one what it does to that one alone. -/
theorem Sound.get?_step_of_ne (h : b.Sound) {e : Event} (he : ∀ r, e ≠ .subscribe r) (id : Nat) :
    (b.step e).mailboxes.get? id =
      (b.mailboxes.get? id).bind fun box ↦ box.next b.capacity id e := by
  cases e with
  | subscribe r => exact absurd rfl (he r)
  | publish r n => exact (h.get?_publish r n id).trans Option.map_eq_bind
  | receive i => exact (get?_receive id i).trans Option.map_eq_bind
  | unsubscribe i => exact (get?_unsubscribe id i).trans Option.map_eq_bind
  | drop i =>
    show (b.drop i).mailboxes.get? id = _
    rw [get?_drop]
    split
    · rename_i hi
      cases b.mailboxes.get? id <;> simp [Mailbox.next, hi]
    · rename_i hi
      cases b.mailboxes.get? id <;> simp [Mailbox.next, hi]

/-- **What the broker does to a mailbox that was opened is what the event does to it alone.** -/
theorem Sound.get?_step (h : b.Sound) (hcapacity : b.capacity < tooLarge) {id : Nat}
    (hid : id < b.opened) (e : Event) :
    (b.step e).mailboxes.get? id =
      (b.mailboxes.get? id).bind fun box ↦ box.next b.capacity id e := by
  cases e with
  | subscribe r =>
    rw [step_subscribe hcapacity]
    exact (Keyed.get?_put_of_ne (Nat.ne_of_lt hid)).trans (Option.bind_fun_some _).symm
  | publish | receive | unsubscribe | drop => exact h.get?_step_of_ne (fun _ he ↦ by cases he) id

/-! ## The registry stays in order -/

theorem Sound.openFor_unsubscribe (h : b.Sound) (r : Int) (i : Nat) :
    (b.unsubscribe i).openFor r = (b.openFor r).filter (· ≠ i) := by
  rw [unsubscribe]
  split
  · rename_i box hbox
    split
    · show (b.unregister box.recipient i).openFor r = _
      rw [openFor_unregister]
      split
      · rename_i hr
        rw [hr]
      · rename_i hr
        refine (List.filter_eq_self.2 fun id hid ↦ decide_eq_true ?_).symm
        rintro rfl
        exact hr ((h.mem_openFor hbox r).1 hid).1.symm
    · rename_i hclosed
      refine (List.filter_eq_self.2 fun id hid ↦ decide_eq_true ?_).symm
      rintro rfl
      exact hclosed ((h.mem_openFor hbox r).1 hid).2
  · rename_i hnone
    refine (List.filter_eq_self.2 fun id hid ↦ decide_eq_true ?_).symm
    rintro rfl
    obtain ⟨box, hbox, -⟩ := (h.listed r id).1 hid
    simp [hnone] at hbox

/-- An event that opens no mailbox leaves the number of mailboxes and what they hold. -/
theorem step_counts {e : Event} (he : ∀ r, e ≠ .subscribe r) :
    (b.step e).capacity = b.capacity ∧ (b.step e).opened = b.opened := by
  have hunsubscribe : ∀ i, (b.unsubscribe i).capacity = b.capacity ∧
      (b.unsubscribe i).opened = b.opened := by
    intro i
    rw [unsubscribe]
    split
    · rename_i box _
      split
      · obtain ⟨registry, hregistry⟩ := b.unregister_eq box.recipient i
        show (b.unregister box.recipient i).capacity = _ ∧ (b.unregister box.recipient i).opened = _
        rw [hregistry]
        exact ⟨rfl, rfl⟩
      · exact ⟨rfl, rfl⟩
    · exact ⟨rfl, rfl⟩
  cases e with
  | subscribe r => exact absurd rfl (he r)
  | publish r n =>
    obtain ⟨mailboxes, hpublish⟩ := b.offerAll_eq n (b.openFor r)
    show (b.publish r n).2.capacity = _ ∧ (b.publish r n).2.opened = _
    rw [publish, hpublish]
    exact ⟨rfl, rfl⟩
  | receive i =>
    rw [step, receive]
    split
    · split <;> exact ⟨rfl, rfl⟩
    · exact ⟨rfl, rfl⟩
  | unsubscribe i => exact hunsubscribe i
  | drop i => exact hunsubscribe i

/-- An event that opens no mailbox strikes from the registry what it closes, and leaves the others
in their order. -/
theorem Sound.openFor_step_eq (h : b.Sound) {e : Event} (he : ∀ r, e ≠ .subscribe r) (r : Int) :
    (b.step e).openFor r = (b.openFor r).filter (fun id ↦ ¬e.Closes id) := by
  -- publishing and reading leave the registry as it is
  have hsame : ∀ {b' : Broker}, b'.registry = b.registry → (∀ id, ¬e.Closes id) →
      b'.openFor r = (b.openFor r).filter (fun id ↦ ¬e.Closes id) := by
    intro b' hregistry hcloses
    rw [openFor, hregistry, List.filter_eq_self.2 fun id _ ↦ decide_eq_true (hcloses id), openFor]
  have hclose : ∀ i, (∀ id, e.Closes id ↔ id = i) →
      (b.unsubscribe i).openFor r = (b.openFor r).filter (fun id ↦ ¬e.Closes id) := by
    intro i hi
    simp only [h.openFor_unsubscribe r i, hi, ne_eq]
  cases e with
  | subscribe r => exact absurd rfl (he r)
  | publish r' n =>
    obtain ⟨mailboxes, hpublish⟩ := b.offerAll_eq n (b.openFor r')
    refine hsame ?_ fun id ↦ by simp [Event.Closes]
    show (b.publish r' n).2.registry = _
    rw [publish, hpublish]
  | receive i =>
    refine hsame ?_ fun id ↦ by simp [Event.Closes]
    rw [step, receive]
    split
    · split <;> rfl
    · rfl
  | unsubscribe i => exact hclose i fun id ↦ by simp [Event.Closes, eq_comm]
  | drop i => exact hclose i fun id ↦ by simp [Event.Closes, eq_comm]

theorem Sound.openFor_step (h : b.Sound) {e : Event} (he : ∀ r, e ≠ .subscribe r) (r : Int) :
    ((b.step e).openFor r).Nodup ∧
      ∀ id, id ∈ (b.step e).openFor r ↔ id ∈ b.openFor r ∧ ¬e.Closes id := by
  rw [h.openFor_step_eq he]
  refine ⟨(h.nodup r).filter _, fun id ↦ ?_⟩
  rw [List.mem_filter, decide_eq_true_eq]

theorem Sound.step_of_ne (h : b.Sound) {e : Event} (he : ∀ r, e ≠ .subscribe r) :
    (b.step e).Sound := by
  obtain ⟨hcapacity, hopened⟩ := b.step_counts he
  have hnext : ∀ {id box'}, (b.step e).mailboxes.get? id = some box' →
      ∃ box, b.mailboxes.get? id = some box ∧ box.next b.capacity id e = some box' := by
    intro id box' hbox'
    rw [h.get?_step_of_ne he id] at hbox'
    exact Option.bind_eq_some_iff.1 hbox'
  refine ⟨fun id box' hbox' ↦ ?_, fun r id ↦ ?_, fun r ↦ (h.openFor_step he r).1,
    fun id box' hbox' ↦ ?_⟩
  · obtain ⟨box, hbox, -⟩ := hnext hbox'
    rw [hopened]
    exact h.numbered id box hbox
  · rw [(h.openFor_step he r).2, h.listed]
    constructor
    · rintro ⟨⟨box, hbox, hr, hopen⟩, hcloses⟩
      obtain ⟨box', hbox'⟩ := box.exists_next b.capacity hcloses
      refine ⟨box', ?_, (Mailbox.recipient_next hbox').trans hr,
        (Mailbox.isOpen_next hbox').2 ⟨hopen, hcloses⟩⟩
      rw [h.get?_step_of_ne he id, hbox]
      exact hbox'
    · rintro ⟨box', hbox', hr, hopen'⟩
      obtain ⟨box, hbox, hstep⟩ := hnext hbox'
      obtain ⟨hopen, hcloses⟩ := (Mailbox.isOpen_next hstep).1 hopen'
      exact ⟨⟨box, hbox, (Mailbox.recipient_next hstep).symm.trans hr, hopen⟩, hcloses⟩
  · obtain ⟨box, hbox, hstep⟩ := hnext hbox'
    rw [hcapacity]
    exact Mailbox.length_next hstep (h.room id box hbox)

theorem Sound.register (h : b.Sound) (r : Int) : (b.register r).2.Sound := by
  have hget : ∀ id, (b.register r).2.mailboxes.get? id =
      if id = b.opened then some ⟨r, [], true⟩ else b.mailboxes.get? id := fun id ↦ Keyed.get?_put
  have hopenFor : ∀ r', (b.register r).2.openFor r' =
      if r' = r then b.openFor r ++ [b.opened] else b.openFor r' := fun r' ↦ openFor_put
  -- the next number is on no list yet
  have hfresh : ∀ r', b.opened ∉ b.openFor r' := by
    intro r' hmem
    obtain ⟨box, hbox, -⟩ := (h.listed r' b.opened).1 hmem
    exact Nat.lt_irrefl _ (h.numbered _ box hbox)
  refine ⟨fun id box hbox ↦ ?_, fun r' id ↦ ?_, fun r' ↦ ?_, fun id box hbox ↦ ?_⟩
  · rw [hget] at hbox
    split at hbox
    · rename_i hid
      exact hid ▸ Nat.lt_succ_self _
    · exact Nat.lt_succ_of_lt (h.numbered id box hbox)
  · rw [hopenFor, hget]
    by_cases hid : id = b.opened
    · subst hid
      rw [if_pos rfl]
      by_cases hr : r' = r
      · simp [hr]
      · simp [hr, Ne.symm hr, hfresh]
    · rw [if_neg hid, ← h.listed]
      by_cases hr : r' = r
      · simp [hr, hid]
      · simp [hr]
  · rw [hopenFor]
    split
    · refine List.nodup_append.2 ⟨h.nodup r, List.nodup_singleton _, ?_⟩
      rintro i hi j hj rfl
      exact hfresh r (List.mem_singleton.1 hj ▸ hi)
    · exact h.nodup r'
  · rw [hget] at hbox
    split at hbox
    · obtain rfl := Option.some.inj hbox
      exact Nat.zero_le _
    · exact h.room id box hbox

/-- **No event brings the registry out of step with the mailboxes.** -/
theorem Sound.step (h : b.Sound) (e : Event) : (b.step e).Sound := by
  cases e with
  | subscribe r =>
    rcases b.step_subscribe_eq_or r with hstep | hstep <;> rw [hstep]
    · exact h.register r
    · exact h
  | publish | receive | unsubscribe | drop => exact h.step_of_ne fun _ he ↦ by cases he

theorem Sound.run (h : b.Sound) (es : List Event) : (b.run es).Sound := by
  induction es generalizing b with
  | nil => exact h
  | cons e es ih => exact ih (h.step e)

theorem capacity_step (e : Event) : (b.step e).capacity = b.capacity := by
  cases e with
  | subscribe r =>
    rcases b.step_subscribe_eq_or r with hstep | hstep <;> rw [hstep]
    rfl
  | publish | receive | unsubscribe | drop => exact (step_counts fun _ he ↦ by cases he).1

/-- Numbers are only ever added. -/
theorem opened_le_step (e : Event) : b.opened ≤ (b.step e).opened := by
  cases e with
  | subscribe r =>
    rcases b.step_subscribe_eq_or r with hstep | hstep
    · exact hstep ▸ Nat.le_succ _
    · exact hstep.symm ▸ Nat.le_refl _
  | publish | receive | unsubscribe | drop =>
    exact Nat.le_of_eq (step_counts fun _ he ↦ by cases he).2.symm

theorem capacity_run (es : List Event) : (b.run es).capacity = b.capacity := by
  induction es generalizing b with
  | nil => rfl
  | cons e es ih => exact ih.trans (capacity_step e)

end Broker

end Microblog
