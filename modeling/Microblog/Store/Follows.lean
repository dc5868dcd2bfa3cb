import Microblog.Page
import Microblog.Store.Delete
import Microblog.Store.Insert

/-!
# Follows in the store

Following somebody raises one counter of each of the two accounts, and no longer following lowers
them.  Listings start with the latest follow.
-/

set_option autoImplicit false

namespace Microblog

namespace Store

/-- Change the counter of the accounts that a user follows. -/
def changeFollowing (id : Int) (f : Cell → Cell) (s : Store) : Store :=
  { s with
    users := s.users.changeAt id (fun u ↦ { u with followingCount := f u.followingCount })
      fun _ ↦ rfl }

/-- Change the counter of the accounts that follow a user. -/
def changeFollowers (id : Int) (f : Cell → Cell) (s : Store) : Store :=
  { s with
    users := s.users.changeAt id (fun u ↦ { u with followersCount := f u.followersCount })
      fun _ ↦ rfl }

/-- Let `follower` follow `target`; gives whether that is new. -/
def follow (now : Nat) (follower target : Int) (s : Store) :
    Except StoreError (Bool × Store) := do
  let added ← during "insert follow" <| ignoring <| s.insertFollow {
    followerId := some (.int follower)
    followingId := some (.int target)
    createdAt := some (stamp now) }
  match added with
  | some (_, s) =>
    let s := s.changeFollowing follower Cell.increment
    return (true, s.changeFollowers target Cell.increment)
  | none => return (false, s)

/-- Let `follower` no longer follow `target`; gives whether it did. -/
def unfollow (follower target : Int) (s : Store) : Except StoreError (Bool × Store) := do
  let (n, s) ← during "delete follow" <|
    s.deleteFollows fun f ↦ f.followerId = follower ∧ f.followingId = target
  if n = 0 then return (false, s)
  else
    let s := s.changeFollowing follower Cell.decrement
    return (true, s.changeFollowers target Cell.decrement)

/-- The latest follow comes first, of equals the account with the greater number. -/
def laterFollow (a b : Follow × StoredUser) : Bool :=
  b.1.createdAt < a.1.createdAt || (a.1.createdAt == b.1.createdAt && b.2.id ≤ a.2.id)

/-- The accounts at one end of follows, the latest follow first. -/
def listFollows (task : String) (p : Follow → Bool) (other : Follow → Int) (page : Page)
    (viewer : Option Int) (s : Store) : Except StoreError (List SeenUser) :=
  during task do
    s.require [.follows, .users]
    let found := (s.follows.list.filter p).filterMap fun f ↦
      (s.users.get? (other f)).map fun u ↦ (f, u)
    (page.of (found.mergeSort laterFollow)).mapM fun e ↦ s.see viewer e.2

/-- The accounts that follow `user`. -/
def followers (user : Int) (page : Page) (viewer : Option Int) (s : Store) :
    Except StoreError (List SeenUser) :=
  s.listFollows "list followers" (·.followingId = user) Follow.followerId page viewer

/-- The accounts that `user` follows. -/
def following (user : Int) (page : Page) (viewer : Option Int) (s : Store) :
    Except StoreError (List SeenUser) :=
  s.listFollows "list following" (·.followerId = user) Follow.followingId page viewer

end Store

end Microblog
