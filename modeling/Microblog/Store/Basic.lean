import Microblog.Calendar
import Microblog.Record.Hashtag
import Microblog.Store.Schema
import Microblog.Store.Stored

/-!
# The store

The store keeps accounts, tweets, likes, follows, notifications and hashtags.  Where rows have a
number of their own, the greatest number ever given is kept too, so that no number is given twice.

A statement is a function from the store to an outcome: an answer, and for a write the store after
it. A statement that fails gives no store, so a failure changes nothing.
-/

set_option autoImplicit false

namespace Microblog

open Text

/-! ## Numbers -/

/-- The greatest number that was given in each table whose rows are numbered. -/
structure Counters where
  users : Int
  tweets : Int
  notifications : Int
  hashtags : Int
deriving DecidableEq, Repr

/-- The number after `last`. -/
def nextId (last : Int) : Except Cause Int :=
  if last < Decimal.greatest then .ok (last + 1) else .error .other

/-- The number for a row after rows with these numbers: the one after the greatest, and where there
is none, one from above zero that is not taken. -/
def nextSerial (serials : List Int) : Int :=
  match serials.max? with
  | none => 1
  | some last =>
    if last < Decimal.greatest then last + 1
    else
      let free := (List.range serials.length).find? fun n ↦ ((n + 1 : Nat) : Int) ∉ serials
      (free.getD 0 + 1 : Nat)

/-! ## The store -/

/-- All that is stored. -/
structure Store where
  schema : Schema
  users : Rows StoredUser
  tweets : Rows StoredTweet
  likes : Rows Like
  follows : Rows Follow
  notifications : Rows StoredNotification
  hashtags : Rows Tag
  tagLinks : Rows TagLink
  counters : Counters

namespace Store

/-- A new file. -/
def empty : Store where
  schema := .empty
  users := .empty
  tweets := .empty
  likes := .empty
  follows := .empty
  notifications := .empty
  hashtags := .empty
  tagLinks := .empty
  counters := ⟨0, 0, 0, 0⟩

instance : Inhabited Store := ⟨empty⟩

/-- A statement needs these tables. -/
def require (s : Store) (tables : List Table) : Except Cause Unit :=
  if tables.all s.schema.hasTable then .ok () else .error .other

/-- A statement that adds a row to a table needs the table and its parents. -/
def requireAdding (s : Store) (t : Table) : Except Cause Unit := s.require (t :: t.parents)

/-- The text that a row written at the time `now`, in nanoseconds, gets for the present.  A row that
is written after the end of the calendar has the text of its last second. -/
def stamp (now : Nat) : String :=
  Timestamp.text (min (now / 1000000000) Timestamp.last.toNat : Nat)

/-- Whether `viewer` follows `user`. -/
def follows? (s : Store) (viewer : Option Int) (user : Int) : Bool :=
  s.follows.list.any fun f ↦ some f.followerId = viewer ∧ f.followingId = user

/-- Whether `viewer` likes the tweet. -/
def likes? (s : Store) (viewer : Option Int) (tweet : Int) : Bool :=
  s.likes.list.any fun l ↦ some l.userId = viewer ∧ l.tweetId = tweet

/-- Whether `viewer` retweeted the tweet. -/
def retweets? (s : Store) (viewer : Option Int) (tweet : Int) : Bool :=
  s.tweets.list.any fun t ↦ t.retweetId = some tweet ∧ some t.userId = viewer

/-- An account as `viewer` sees it. -/
def see (s : Store) (viewer : Option Int) (u : StoredUser) : Except Cause SeenUser := do
  return ⟨← u.read, s.follows? viewer u.id⟩

/-- What `viewer` did with a tweet: a retweet record stands for the tweet that it points at. -/
def flags (s : Store) (viewer : Option Int) (t : Tweet) : ViewerFlags :=
  ⟨s.likes? viewer t.target, s.retweets? viewer t.target, s.follows? viewer t.userId⟩

/-- A tweet as `viewer` sees it. -/
def seeTweet (s : Store) (viewer : Option Int) (t : StoredTweet) : Except Cause SeenTweet := do
  let t ← t.read
  return ⟨t, s.flags viewer t⟩

end Store

end Microblog
