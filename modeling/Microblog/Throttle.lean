import Microblog.Keyed
import Microblog.Text.Decimal

/-!
# Throttling clients

Every client has a bucket of `burst` tokens, which fills up again at `perSecond` tokens a second.  A
request takes one token and is refused when there is none.  Buckets are made when a client is first
seen, and `sweep` takes those out whose client has been idle for longer than a time.

A bucket is kept as the time at which it would be full again, counted from its own birth.  Times are
in nanoseconds.
-/

set_option autoImplicit false

namespace Microblog

open Text

/-- The settings of a throttle. -/
structure ThrottleSettings where
  /-- The number of tokens that come back in a second. -/
  perSecond : Nat := 5
  /-- The number of tokens of a full bucket. -/
  burst : Nat := 10
  /-- How long a client may be idle before it is forgotten. -/
  idleTimeout : Nat := 180000000000
  /-- How often clients that are idle are looked for. -/
  sweepInterval : Nat := 60000000000
deriving DecidableEq, Repr

namespace ThrottleSettings

/-- The time in which one token comes back.  No token a second counts as one. -/
def tokenTime (s : ThrottleSettings) : Nat := 1000000000 / max s.perSecond 1

/-- How far ahead of the present a bucket may be.  A burst of none counts as one. -/
def tolerance (s : ThrottleSettings) : Nat := max s.tokenTime 1 * max s.burst 1

end ThrottleSettings

/-- The bucket of a client. -/
structure Bucket where
  /-- When the bucket was made. -/
  born : Nat
  /-- When, counted from the birth of the bucket, it will be full again. -/
  fullAt : Nat
  /-- When the client was last seen, whether its request was let in or refused. -/
  lastSeen : Nat
deriving DecidableEq, Repr

/-- The bucket of every client that was seen lately. -/
structure Throttle where
  settings : ThrottleSettings
  clients : Keyed String Bucket

namespace Throttle

/-- A throttle that has seen no client. -/
def new (settings : ThrottleSettings) : Throttle := ⟨settings, .empty⟩

/-- The bucket of a client that was not seen before. -/
def freshBucket (settings : ThrottleSettings) (now : Nat) : Bucket :=
  ⟨now, settings.tokenTime, now⟩

/-- Take a token out of a bucket, if there is one. -/
def take (settings : ThrottleSettings) (now : Nat) (b : Bucket) : Bool × Bucket :=
  let age := now - b.born
  let b := { b with lastSeen := now }
  if age < b.fullAt - settings.tolerance then (false, b)
  else (true, { b with fullAt := max b.fullAt age + settings.tokenTime })

/-- Take a token for a client; gives whether there was one. -/
def allow (now : Nat) (client : String) (t : Throttle) : Bool × Throttle :=
  let bucket := (t.clients.get? client).getD (freshBucket t.settings now)
  let (allowed, bucket) := take t.settings now bucket
  (allowed, { t with clients := t.clients.put client bucket })

/-- Take `n` tokens for a client, one after the other; gives the number of those that there were. -/
def allowTimes (now : Nat) (client : String) (n : Nat) (t : Throttle) : Nat × Throttle :=
  Nat.repeat (fun (count, t) ↦
    let (allowed, t) := t.allow now client
    (if allowed then count + 1 else count, t)) n (0, t)

/-- Whether the client of a bucket has not been idle for too long. -/
def isActive (settings : ThrottleSettings) (now : Nat) (b : Bucket) : Bool :=
  now - b.lastSeen ≤ settings.idleTimeout

/-- Forget the clients that have been idle for too long; gives their number. -/
def sweep (now : Nat) (t : Throttle) : Nat × Throttle :=
  let kept := t.clients.keep fun _ b ↦ isActive t.settings now b
  (t.clients.size - kept.size, { t with clients := kept })

/-- The number of clients that are remembered. -/
def tracked (t : Throttle) : Nat := t.clients.size

/-! ## Description -/

/-- The digits of a fraction `n / 10 ^ places`, without the zeros at its end. -/
def fractionDigits (places n : Nat) : List Char :=
  let ds := Decimal.digits n
  let ds := List.replicate (places - ds.length) '0' ++ ds
  (ds.reverse.dropWhile (· = '0')).reverse

/-- `n / 10 ^ places` with a unit. -/
def scaled (places n : Nat) (unit : String) : String :=
  let unitSize := Nat.pow 10 places
  let fraction := fractionDigits places (n % unitSize)
  Decimal.render (n / unitSize : Nat) ++
    (if fraction.isEmpty then "" else "." ++ .ofList fraction) ++ unit

/-- A time in the greatest unit of which it has at least one. -/
def durationText (n : Nat) : String :=
  if 1000000000 ≤ n then scaled 9 n "s"
  else if 1000000 ≤ n then scaled 6 n "ms"
  else if 1000 ≤ n then scaled 3 n "µs"
  else scaled 0 n "ns"

/-- The throttle in words, for whoever looks after it. -/
def describe (t : Throttle) : String :=
  "RateLimiter \x7b config: RateLimitConfig \x7b per_second: " ++
    Decimal.render t.settings.perSecond ++ ", burst: " ++ Decimal.render t.settings.burst ++
    ", idle_timeout: " ++ durationText t.settings.idleTimeout ++ ", sweep_interval: " ++
    durationText t.settings.sweepInterval ++ " \x7d, tracked_clients: " ++
    Decimal.render t.tracked ++ ", .. \x7d"

end Throttle

end Microblog
