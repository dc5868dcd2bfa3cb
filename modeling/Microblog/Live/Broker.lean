import Microblog.Keyed
import Microblog.Record.Notification

/-!
# The broker

A broker hands notifications to whoever listens at the moment.  A subscription to a recipient owns a
mailbox of bounded size; what is published for the recipient goes to each of their mailboxes that
has room, and is lost for the others.

* The registry holds the open mailboxes of each recipient, in the order in which they were opened.
* Unsubscribing takes a mailbox out of the registry and closes it.  What it had accepted can still
  be taken out of it.
* Dropping a subscription unsubscribes it and forgets its mailbox.
-/

set_option autoImplicit false

namespace Microblog

/-- What cannot be carried on with: the settings ask for the impossible. -/
inductive Abort where
  /-- A mailbox is to be larger than a mailbox can be. -/
  | mailboxTooLarge
  /-- A heartbeat is to come without pause, or later than time goes. -/
  | heartbeat
  /-- Every origin is to be allowed, by a list of origins. -/
  | anyOrigin
deriving DecidableEq, Repr

/-- The mailbox of a subscription. -/
structure Mailbox where
  recipient : Int
  /-- What was accepted and not taken out yet, oldest first. -/
  pending : List Notification
  isOpen : Bool
deriving DecidableEq, Repr

/-- What is found in a mailbox. -/
inductive Receipt where
  | item (n : Notification)
  /-- There is nothing yet. -/
  | pending
  /-- There will be nothing any more. -/
  | closed
deriving DecidableEq, Repr

/-- Mailboxes and the registry of those that are open. -/
structure Broker where
  /-- How much a mailbox holds. -/
  capacity : Nat
  /-- The number of mailboxes opened so far, which are numbered from zero on. -/
  opened : Nat
  /-- The open mailboxes of each recipient. -/
  registry : Keyed Int (List Nat)
  /-- The mailbox of each subscription. -/
  mailboxes : Keyed Nat Mailbox

namespace Broker

/-- A broker without mailboxes, each of which will hold `capacity` notifications, and at least
one. -/
def new (capacity : Nat) : Broker := ⟨max capacity 1, 0, .empty, .empty⟩

/-- The least size that a mailbox cannot have. -/
def tooLarge : Nat := .pow 2 61

/-- The open mailboxes of a recipient. -/
def openFor (recipient : Int) (b : Broker) : List Nat := (b.registry.get? recipient).getD []

/-- The number of open mailboxes of a recipient. -/
def subscriberCount (recipient : Int) (b : Broker) : Nat := (b.openFor recipient).length

/-- Open a mailbox for a recipient; gives its number.  The numbers do not end here.  A counter of 64
bits begins again after 2^64 mailboxes, and only from then on would two of them share a number. -/
def register (recipient : Int) (b : Broker) : Nat × Broker :=
  (b.opened, { b with
    opened := b.opened + 1
    registry := b.registry.put recipient (b.openFor recipient ++ [b.opened])
    mailboxes := b.mailboxes.put b.opened ⟨recipient, [], true⟩ })

/-- Open a mailbox for a recipient, if it can be that large. -/
def subscribe (recipient : Int) (b : Broker) : Except Abort (Nat × Broker) :=
  if b.capacity < tooLarge then .ok (b.register recipient) else .error .mailboxTooLarge

/-- Offer a notification to one mailbox; gives whether it was accepted. -/
def offer (n : Notification) (id : Nat) (b : Broker) : Bool × Broker :=
  match b.mailboxes.get? id with
  | some box =>
    if box.isOpen ∧ box.pending.length < b.capacity then
      (true, { b with
        mailboxes := b.mailboxes.put id { box with pending := box.pending ++ [n] } })
    else (false, b)
  | none => (false, b)

/-- Offer a notification to some mailboxes in order; gives the number of those that accepted it. -/
def offerAll (n : Notification) : List Nat → Broker → Nat × Broker
  | [], b => (0, b)
  | id :: ids, b =>
    let (accepted, b) := b.offer n id
    let (count, b) := offerAll n ids b
    (if accepted then count + 1 else count, b)

/-- Publish a notification for a recipient; gives the number of mailboxes that accepted it. -/
def publish (recipient : Int) (n : Notification) (b : Broker) : Nat × Broker :=
  offerAll n (b.openFor recipient) b

/-- Take the next notification out of a mailbox. -/
def receive (id : Nat) (b : Broker) : Receipt × Broker :=
  match b.mailboxes.get? id with
  | some box =>
    match box.pending with
    | n :: rest =>
      (.item n, { b with mailboxes := b.mailboxes.put id { box with pending := rest } })
    | [] => (if box.isOpen then .pending else .closed, b)
  | none => (.closed, b)

/-- Take a mailbox out of the registry; a recipient without mailboxes is not kept. -/
def unregister (recipient : Int) (id : Nat) (b : Broker) : Broker :=
  match (b.openFor recipient).filter (· ≠ id) with
  | [] => { b with registry := b.registry.remove recipient }
  | ids => { b with registry := b.registry.put recipient ids }

/-- Close a mailbox, if it is open. -/
def unsubscribe (id : Nat) (b : Broker) : Broker :=
  match b.mailboxes.get? id with
  | some box =>
    if box.isOpen then
      let b := b.unregister box.recipient id
      { b with mailboxes := b.mailboxes.put id { box with isOpen := false } }
    else b
  | none => b

/-- Close a mailbox and forget it. -/
def drop (id : Nat) (b : Broker) : Broker :=
  let b := b.unsubscribe id
  { b with mailboxes := b.mailboxes.remove id }

/-- The recipient of a mailbox. -/
def recipient? (id : Nat) (b : Broker) : Option Int := (b.mailboxes.get? id).map (·.recipient)

end Broker

end Microblog
