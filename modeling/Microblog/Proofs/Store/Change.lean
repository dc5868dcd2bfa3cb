import Mathlib.Logic.Relation
import Microblog.Store.Follows
import Microblog.Store.Hashtags
import Microblog.Store.Notifications
import Microblog.Store.Tweets
import Microblog.Store.Users

/-!
# Changes of the store

The application changes the store by statements only, and it looks before it writes: it answers a
tweet that it has found, deletes by number only what is no retweet record, and retweets only what it
has resolved to an original.  `Store.Change` is one statement that succeeded together with what was
seen in the store right before it.

* Whatever every `Change` keeps is an invariant of the application (`Store.Changes.keeps`), so that
  an invariant needs one case for each statement and nothing else.
* That the application changes the store in no other way is shown where the actions are.
-/

set_option autoImplicit false

namespace Microblog

namespace Store

/-- The tweet with this number is one that may be retweeted: it is found, and it is either seen to
be no retweet record or what a record that was found points at. -/
def Resolved (s : Store) (target : Int) : Prop :=
  ∃ t ∈ s.tweets.list, (t.id = target ∧ t.retweetId = none) ∨ t.retweetId = some target

/-- A statement that the application carries out on the store at the time `now`, and the store after
it.  The hypotheses called `seen` are what the application has looked at right before. -/
inductive Change (now : Nat) (s : Store) : Store → Prop
  | register {new : NewUser} {u : User} {s' : Store}
      (h : s.createUser now new = .ok (u, s')) : Change now s s'
  | post {user : Int} {content : String} {parent : Option Int} {t : Tweet} {s' : Store}
      (seen : ∀ p, parent = some p → s.tweets.has p = true)
      (h : s.createTweet now user (some content) parent = .ok (t, s')) : Change now s s'
  | delete {id user : Int} {b : Bool} {s' : Store}
      (seen : ∀ t ∈ s.tweets.list, t.id = id → t.retweetId = none)
      (h : s.deleteTweet id user = .ok (b, s')) : Change now s s'
  | retweet {user target : Int} {o : Option Tweet} {s' : Store}
      (seen : s.Resolved target) (h : s.createRetweet now user target = .ok (o, s')) :
      Change now s s'
  | undo {user target : Int} {b : Bool} {s' : Store}
      (h : s.deleteRetweet user target = .ok (b, s')) : Change now s s'
  | like {user tweet : Int} {b : Bool} {s' : Store}
      (h : s.like now user tweet = .ok (b, s')) : Change now s s'
  | unlike {user tweet : Int} {b : Bool} {s' : Store}
      (h : s.unlike user tweet = .ok (b, s')) : Change now s s'
  | follow {follower target : Int} {b : Bool} {s' : Store}
      (h : s.follow now follower target = .ok (b, s')) : Change now s s'
  | unfollow {follower target : Int} {b : Bool} {s' : Store}
      (h : s.unfollow follower target = .ok (b, s')) : Change now s s'
  | profile {id : Int} {profile : Profile} {b : Bool} {s' : Store}
      (h : s.writeProfile now id profile = .ok (b, s')) : Change now s s'
  | notify {new : NewNotification} {n : Notification} {s' : Store}
      (h : s.createNotification now new = .ok (n, s')) : Change now s s'
  | markRead {recipient : Int} {n : Nat} {s' : Store}
      (h : s.markRead recipient = .ok (n, s')) : Change now s s'
  | tag {name : String} {u : Unit} {s' : Store}
      (h : s.addTag now name = .ok (u, s')) : Change now s s'
  | link {tweet tag : Int} {u : Unit} {s' : Store}
      (h : s.linkTag tweet tag = .ok (u, s')) : Change now s s'

/-- Any number of changes at the time `now`. -/
def Changes (now : Nat) : Store → Store → Prop := Relation.ReflTransGen (Change now)

/-- What each change keeps, any number of them keeps. -/
theorem Changes.keeps {now : Nat} {s s' : Store} {P : Store → Prop}
    (hP : ∀ {s s'}, Change now s s' → P s → P s') (h : Changes now s s') (hs : P s) : P s' := by
  induction h with
  | refl => exact hs
  | tail _ hstep ih => exact hP hstep ih

end Store

end Microblog
