import Microblog.Cache
import Microblog.Live.Broker
import Microblog.Social.Failure
import Microblog.Store.Follows
import Microblog.Store.Hashtags
import Microblog.Store.Migration
import Microblog.Store.Notifications
import Microblog.Store.Tweets
import Microblog.Store.Users

/-!
# The application

A `Social` is the application: the store, the broker, the cache if there is one, and the time.  An
`Action` is what somebody does with it.  An action that fails keeps what it has done before it
failed; each of them is written so that there is nothing of the kind.
-/

set_option autoImplicit false

namespace Microblog

/-- How long answers are cached, in nanoseconds. -/
structure Lifetimes where
  feed : Nat
  trending : Nat
deriving DecidableEq, Repr

/-- The application. -/
structure Social where
  store : Store
  broker : Broker
  /-- The cache, if answers are cached. -/
  cache : Option Cache
  lifetimes : Lifetimes
  /-- The time in nanoseconds. -/
  now : Nat

/-- What somebody does with the application. -/
abbrev Action (α : Type) := ExceptT Failure (StateM Social) α

namespace Action

/-- Fail. -/
def fail {α : Type} (f : Failure) : Action α := throw f

/-- Ask the store. -/
def ask {α : Type} (statement : Store → Except StoreError α) : Action α := do
  match statement (← get).store with
  | .ok a => return a
  | .error e => fail (.store e)

/-- Change the store.  The statement is given the time. -/
def change {α : Type} (statement : Nat → Store → Except StoreError (α × Store)) : Action α := do
  let s ← get
  match statement s.now s.store with
  | .ok (a, store) =>
    set { s with store }
    return a
  | .error e => fail (.store e)

/-- Do something, and go on if it fails. -/
def attempt (action : Action Unit) : Action Unit := tryCatch action fun _ ↦ pure ()

/-- The value, or a failure when there is none. -/
def orFail {α : Type} (f : Failure) : Option α → Action α
  | some a => pure a
  | none => fail f

/-- The tweet with a number, which has to exist. -/
def requireTweet (id : Int) : Action Tweet := do orFail .noTweet (← ask (Store.tweet? id))

/-- Whoever acts has to have an account. -/
def requireActor (id : Int) : Action Unit := do
  let _ ← orFail .unknownViewer (← ask (Store.user? id))

/-- Tell `recipient` what `actor` did, in the store and on the streams that are open.  Nobody is
told of what they did themselves, and if this fails the action goes on. -/
def notify (recipient actor : Int) (tweet : Option Int) (kind : NotificationKind) : Action Unit :=
  if recipient = actor then pure ()
  else attempt do
    let n ← change fun now ↦ Store.createNotification now ⟨recipient, actor, tweet, kind⟩
    modify fun s ↦ { s with broker := (s.broker.publish recipient n).2 }

/-- The store as a source of accounts and tweets. -/
def loader : Loader Action StoreError where
  users ids viewer := return (← get).store.usersByIds ids viewer
  tweets ids viewer := return (← get).store.tweetsByIds ids viewer

/-- The items of some tweets, with what the viewer did with them. -/
def items (viewer : Option Int) (rows : List SeenTweet) : Action (List Item) := do
  match ← hydrate loader viewer (rows.map (·.tweet)) with
  | .ok items => return applyFlags items (rows.map (·.flags))
  | .error e => fail e.failure

end Action

/-- The application at its start. -/
def Social.new (capacity : Nat) (cached : Bool) (lifetimes : Lifetimes) :
    Except StoreError Social := do
  return {
    store := ← Store.fresh
    broker := .new capacity
    cache := if cached then some .empty else none
    lifetimes
    now := 0 }

end Microblog
