import Microblog.Cache
import Microblog.Throttle

/-!
# Upkeep

Every `interval` nanoseconds a worker takes idle clients out of the throttle and entries whose time
is over out of the cache, until it is told to stop.  However many rounds have become due since it
last looked, one round at the present does the work of them all.
-/

set_option autoImplicit false

namespace Microblog

/-- The worker. -/
structure Worker where
  /-- The time between two rounds. -/
  interval : Nat
  /-- When the next round is due. -/
  due : Nat
  /-- Whether the worker looks after the cache too. -/
  keepsCache : Bool
  running : Bool
deriving DecidableEq, Repr

/-- What is kept in order, and the time. -/
structure Upkeep where
  throttle : Throttle
  cache : Cache
  worker : Option Worker
  now : Nat

namespace Upkeep

/-- One round: forget who is idle and, if the cache is looked after, what is over. -/
def round (keepsCache : Bool) (u : Upkeep) : Upkeep :=
  { u with
    throttle := (u.throttle.sweep u.now).2
    cache := if keepsCache then (u.cache.purge u.now).2 else u.cache }

/-- The first time after `now` at which a round is due. -/
def nextDue (interval now : Nat) : Nat := (now / interval + 1) * interval

/-- Do the work that is due. -/
def work (u : Upkeep) : Upkeep :=
  match u.worker with
  | some w =>
    if w.running ∧ w.due ≤ u.now then
      { u.round w.keepsCache with worker := some { w with due := nextDue w.interval u.now } }
    else u
  | none => u

/-- Let time pass, and do the work that becomes due. -/
def advance (ns : Nat) (u : Upkeep) : Upkeep := { u with now := u.now + ns }.work

/-- Tell the worker to stop; gives whether it has, if there is one. -/
def shutdown (u : Upkeep) : Option Bool × Upkeep :=
  (u.worker.map fun _ ↦ true,
    { u with worker := u.worker.map fun w ↦ { w with running := false } })

/-- Start with a throttle, an empty cache and, if one is wanted, a worker, which needs some time
between its rounds. -/
def start (settings : ThrottleSettings) (worker : Option (Nat × Bool)) : Upkeep where
  throttle := .new settings
  cache := .empty
  worker := worker.map fun (interval, keepsCache) ↦ ⟨interval, interval, keepsCache, interval ≠ 0⟩
  now := 0

end Upkeep

end Microblog
