import Microblog.Proofs.Keyed
import Microblog.Throttle

/-!
# Single requests

What one request does to the bucket of a client.  The bucket that it finds is an old or a new one
(`Throttle.bucketOf`).  The request is let in if that bucket is not too far ahead of the present
(`Throttle.take_eq_true_iff`), and puts it ahead by one token then.
-/

set_option autoImplicit false

namespace Microblog

namespace Throttle

variable {settings : ThrottleSettings} {t : Throttle} {now : Nat} {c client : String} {b : Bucket}

/-! ## Settings -/

theorem tolerance_eq (h : 0 < settings.tokenTime) :
    settings.tolerance = settings.tokenTime * max settings.burst 1 := by
  rw [ThrottleSettings.tolerance, Nat.max_eq_left h]

theorem tokenTime_le_tolerance (settings : ThrottleSettings) :
    settings.tokenTime ≤ settings.tolerance :=
  (Nat.le_max_left _ _).trans (Nat.le_mul_of_pos_right _ (Nat.le_max_right _ _))

/-! ## Buckets -/

theorem lastSeen_take (settings : ThrottleSettings) :
    (take settings now b).2.lastSeen = now := by
  rw [take]
  split <;> rfl

theorem born_take (settings : ThrottleSettings) : (take settings now b).2.born = b.born := by
  rw [take]
  split <;> rfl

/-- A request is let in if the bucket is not too far ahead. -/
theorem take_eq_true_iff :
    (take settings now b).1 = true ↔ b.fullAt ≤ now - b.born + settings.tolerance := by
  rw [take]
  split
  · rename_i hfull
    have hlt : now - b.born < b.fullAt - settings.tolerance := hfull
    exact iff_of_false Bool.false_ne_true (by omega)
  · rename_i hroom
    have hle : b.fullAt - settings.tolerance ≤ now - b.born := Nat.le_of_not_lt hroom
    exact iff_of_true rfl (by omega)

/-- A request that is refused leaves the bucket as it is. -/
theorem fullAt_take_of_refused (h : (take settings now b).1 = false) :
    (take settings now b).2.fullAt = b.fullAt := by
  rw [take] at h ⊢
  split
  · rfl
  · rename_i hroom
    rw [if_neg hroom] at h
    cases h

/-- A request that is let in puts the bucket ahead by one token. -/
theorem fullAt_take_of_admitted (h : (take settings now b).1 = true) :
    (take settings now b).2.fullAt = max b.fullAt (now - b.born) + settings.tokenTime := by
  rw [take] at h ⊢
  split
  · rename_i hfull
    rw [if_pos hfull] at h
    cases h
  · rfl

theorem isActive_iff : isActive settings now b = true ↔ now - b.lastSeen ≤ settings.idleTimeout :=
  decide_eq_true_iff

theorem isActive_eq_false_iff :
    isActive settings now b = false ↔ settings.idleTimeout < now - b.lastSeen := by
  rw [← Bool.not_eq_true, isActive_iff, Nat.not_le]

/-! ## Clients -/

/-- The bucket that a request finds. -/
def bucketOf (t : Throttle) (now : Nat) (client : String) : Bucket :=
  (t.clients.get? client).getD (freshBucket t.settings now)

theorem allow_eq : t.allow now client =
    ((take t.settings now (t.bucketOf now client)).1,
      { t with
        clients := t.clients.put client (take t.settings now (t.bucketOf now client)).2 }) :=
  rfl

theorem get?_allow : (t.allow now c).2.clients.get? client =
    if client = c then some (take t.settings now (t.bucketOf now c)).2
    else t.clients.get? client := by
  rw [allow_eq]
  exact Keyed.get?_put

theorem get?_sweep : (t.sweep now).2.clients.get? client =
    (t.clients.get? client).filter (isActive t.settings now) :=
  Keyed.get?_keep

theorem bucketOf_of_unknown (hnew : t.clients.get? client = none) :
    t.bucketOf now client = freshBucket t.settings now := by
  rw [bucketOf, hnew, Option.getD_none]

theorem bucketOf_of_known (hb : t.clients.get? client = some b) : t.bucketOf now client = b := by
  rw [bucketOf, hb, Option.getD_some]

theorem bucketOf_allow_self :
    (t.allow now client).2.bucketOf now client =
      (take t.settings now (t.bucketOf now client)).2 := by
  rw [bucketOf, get?_allow, if_pos rfl, Option.getD_some]

theorem bucketOf_allow_of_ne (hc : c ≠ client) :
    (t.allow now c).2.bucketOf now client = t.bucketOf now client := by
  rw [bucketOf, get?_allow, if_neg (Ne.symm hc)]
  rfl

/-- A client that is not known is not refused. -/
theorem allow_of_unknown (hnew : t.clients.get? client = none) :
    (t.allow now client).1 = true := by
  rw [allow_eq, take_eq_true_iff, bucketOf_of_unknown hnew]
  exact (tokenTime_le_tolerance t.settings).trans (Nat.le_add_left _ _)

end Throttle

end Microblog
