import Microblog.Live.Broker
import Microblog.Live.Frame

/-!
# Sessions

A session is one stream of notifications.  It connects when its first frame is taken, by opening a
mailbox.  Then it yields what arrives in the mailbox, and a ping whenever its heartbeat is due,
until it is closed or everything shuts down.

The heartbeat is due at its deadline, as soon as the clock shows a whole millisecond that is not
before it.  A ping that is taken in time moves the deadline on by one period; one that is taken more
than `tolerance` late is followed by none for a full period.

Several things can be there to wake a session at once.  It may look at any of them first, and goes
round from there (`Wake.order`); what it does is stated for each way to go round
(`Session.nextFrom`).  `Session.next` is the way that looks at the shutdown first.
-/

set_option autoImplicit false

namespace Microblog

/-- The state of a session. -/
inductive SessionState where
  | connecting
  /-- The session reads this mailbox, unless it lost it. -/
  | streaming (mailbox : Option Nat)
  | closed
deriving DecidableEq, Repr

/-- A stream of notifications for a recipient.  Times are in nanoseconds. -/
structure Session where
  recipient : Int
  period : Nat
  deadline : Nat
  state : SessionState
deriving DecidableEq, Repr

/-- What a session yields. -/
inductive Yield where
  | frame (f : Frame)
  /-- There is nothing yet. -/
  | pending
  /-- There will be nothing any more. -/
  | ended
deriving DecidableEq, Repr

/-- What a session waits for while it streams. -/
inductive Wake where
  | shutdown
  | heartbeat
  | mailbox
deriving DecidableEq, Repr

/-- The order in which a session looks at what it waits for, if it looks at this first. -/
def Wake.order : Wake → List Wake
  | .shutdown => [.shutdown, .heartbeat, .mailbox]
  | .heartbeat => [.heartbeat, .mailbox, .shutdown]
  | .mailbox => [.mailbox, .shutdown, .heartbeat]

namespace Session

/-- A millisecond. -/
def millisecond : Nat := 1000000

/-- How late a ping may be taken to count as in time. -/
def tolerance : Nat := 5 * millisecond

/-- The last second that a clock can show, which no session waits for. -/
def endOfTime : Nat := .pow 2 63 - 1

/-- Open a session with a heartbeat every so many milliseconds.  It has to come after some time, and
within what a clock shows. -/
def start (now : Nat) (recipient : Int) (milliseconds : Nat) : Except Abort Session :=
  let period := milliseconds * millisecond
  if period = 0 ∨ endOfTime ≤ (now + period) / (1000 * millisecond) then .error .heartbeat
  else .ok ⟨recipient, period, now + period, .connecting⟩

/-- Close a session, which gives its mailbox up. -/
def close (s : Session) (b : Broker) : Session × Broker :=
  match s.state with
  | .streaming (some id) => ({ s with state := .closed }, b.drop id)
  | _ => ({ s with state := .closed }, b)

/-- Whether the heartbeat is due. -/
def isDue (now : Nat) (s : Session) : Bool := s.deadline ≤ now / millisecond * millisecond

/-- The deadline after a ping that is taken at `now`. -/
def nextDeadline (now : Nat) (s : Session) : Nat :=
  if s.deadline + tolerance < now then now + s.period else s.deadline + s.period

/-- What the session yields if it has the mailbox `id` and is woken by this; nothing if this is not
there to wake it. -/
def wokenBy (now : Nat) (shutdown : Bool) (id : Nat) (s : Session) (b : Broker) :
    Wake → Option (Yield × Session × Broker)
  | .shutdown => if shutdown then some (.ended, s.close b) else none
  | .heartbeat =>
    if s.isDue now then some (.frame .ping, { s with deadline := s.nextDeadline now }, b) else none
  | .mailbox =>
    match b.receive id with
    | (.item n, b) => some (.frame (.notification n), s, b)
    | (.pending, _) => none
    | (.closed, b) => some (.ended, s.close b)

/-- What the session yields next, if it looks at `first` before anything else when it waits.  A
session without its mailbox closes. -/
def nextFrom (first : Wake) (now : Nat) (shutdown : Bool) (s : Session) (b : Broker) :
    Except Abort (Yield × Session × Broker) :=
  match s.state with
  | .closed => .ok (.ended, s, b)
  | .connecting =>
    if shutdown then .ok (.ended, s.close b)
    else do
      let (id, b) ← b.subscribe s.recipient
      return (.frame .connected, { s with state := .streaming (some id) }, b)
  | .streaming none => .ok (.ended, s.close b)
  | .streaming (some id) =>
    .ok ((first.order.findSome? (s.wokenBy now shutdown id b)).getD (.pending, s, b))

/-- What the session yields next. -/
def next (now : Nat) (shutdown : Bool) (s : Session) (b : Broker) :
    Except Abort (Yield × Session × Broker) :=
  s.nextFrom .shutdown now shutdown b

/-- All that the session yields now; `fuel` bounds the number of frames. -/
def drainWith (now : Nat) (shutdown : Bool) :
    Nat → Session → Broker → Except Abort (List Yield × Session × Broker)
  | 0, s, b => .ok ([], s, b)
  | fuel + 1, s, b => do
    match ← s.next now shutdown b with
    | (.frame f, s, b) =>
      let (ys, s, b) ← drainWith now shutdown fuel s b
      return (.frame f :: ys, s, b)
    | (y, s, b) => return ([y], s, b)

/-- A number of steps within which a session has yielded all that it has to yield at one time: the
notifications in its mailbox, one frame that says that it stands, a ping for each millisecond that a
heartbeat may be late, and the answer that there is no more. -/
def bound (s : Session) (b : Broker) : Nat :=
  let pending := match s.state with
    | .streaming (some id) => ((b.mailboxes.get? id).map (·.pending.length)).getD 0
    | _ => 0
  pending + tolerance / millisecond + 4

/-- All that the session yields now, up to and with the answer that there is no more. -/
def drain (now : Nat) (shutdown : Bool) (s : Session) (b : Broker) :
    Except Abort (List Yield × Session × Broker) :=
  s.drainWith now shutdown (s.bound b) b

/-- The frames among what was yielded. -/
def frames (ys : List Yield) : List Frame :=
  ys.filterMap fun y ↦ match y with
    | .frame f => some f
    | _ => none

end Session

end Microblog
