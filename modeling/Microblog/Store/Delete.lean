import Microblog.Store.Basic

/-!
# Deleting rows

A row goes away together with the rows that refer to it: with a tweet go its replies and retweets,
theirs again, and the likes, hashtag links and notifications of all of them.
-/

set_option autoImplicit false

namespace Microblog

namespace Schema

/-- The tables that are there whose rows refer to those of `t`. -/
def presentChildren (s : Schema) (t : Table) : List Table := t.children.filter s.hasTable

/-- The tables that lose rows when rows of `t` are deleted. -/
def dependents (s : Schema) (t : Table) : List Table :=
  s.presentChildren t ++ (s.presentChildren t).flatMap s.presentChildren

end Schema

/-- The counters, with that of a table back at its start. -/
def Counters.forget (c : Counters) : Table → Counters
  | .users => { c with users := 0 }
  | .tweets => { c with tweets := 0 }
  | .notifications => { c with notifications := 0 }
  | .hashtags => { c with hashtags := 0 }
  | _ => c

namespace StoredTweet

/-- Whether `t` answers or retweets one of these tweets. -/
def hangsOn (t : StoredTweet) (ids : List Int) : Bool :=
  t.parentId.any ids.contains || t.retweetId.any ids.contains

/-- `seen`, with the tweets that hang on its last part `ids` and on what hangs on them, if that ends
after at most `n` steps. -/
def spread? (tweets : List StoredTweet) : Nat → List Int → List Int → Option (List Int)
  | n, seen, ids =>
    match tweets.filter fun t ↦ t.hangsOn ids && !seen.contains t.id, n with
    | [], _ => some seen
    | _ :: _, 0 => none
    | t :: ts, n + 1 =>
      let more := (t :: ts).map StoredTweet.id
      spread? tweets n (seen ++ more) more

end StoredTweet

namespace Store

/-- A statement that deletes rows of `t` needs the parents of every table that may lose rows. -/
def requireDeleting (s : Store) (t : Table) : Except Cause Unit :=
  s.require (t :: t.parents ++ (s.schema.dependents t).flatMap Table.parents)

/-- How far a deletion may go from a tweet to those that hang on it. -/
def maxDepth : Nat := 999

/-- The tweets that go away with these; a deletion that would go too far fails. -/
def doomed (s : Store) (ids : List Int) : Except Cause (List Int) :=
  (StoredTweet.spread? s.tweets.list maxDepth ids ids).elim (.error .other) .ok

/-- Take tweets out, and what refers to them. -/
def withoutTweets (s : Store) (ids : List Int) : Store :=
  { s with
    tweets := s.tweets.keep fun t ↦ !ids.contains t.id
    likes := s.likes.keep fun l ↦ !ids.contains l.tweetId
    notifications := s.notifications.keep fun n ↦ !n.tweetId.any ids.contains
    tagLinks := s.tagLinks.keep fun l ↦ !ids.contains l.tweetId }

/-- Delete the tweets that satisfy `p`, with all that hangs on them.  Gives the number of tweets
that satisfied it. -/
def deleteTweets (p : StoredTweet → Bool) (s : Store) : Except Cause (Nat × Store) := do
  s.requireDeleting .tweets
  let ids := (s.tweets.list.filter p).map StoredTweet.id
  return (ids.length, s.withoutTweets (← s.doomed ids))

/-- Delete the likes that satisfy `p`.  Gives their number. -/
def deleteLikes (p : Like → Bool) (s : Store) : Except Cause (Nat × Store) := do
  s.requireDeleting .likes
  return ((s.likes.list.filter p).length, { s with likes := s.likes.keep fun l ↦ !p l })

/-- Delete the follows that satisfy `p`.  Gives their number. -/
def deleteFollows (p : Follow → Bool) (s : Store) : Except Cause (Nat × Store) := do
  s.requireDeleting .follows
  return ((s.follows.list.filter p).length, { s with follows := s.follows.keep fun f ↦ !p f })

/-! ## Dropping tables -/

/-- Take all rows out of a table, and what refers to them. -/
def clear (s : Store) : Table → Store
  | .users =>
    { s.withoutTweets (s.tweets.list.map StoredTweet.id) with
      users := .empty
      likes := .empty
      follows := .empty
      notifications := .empty }
  | .tweets => s.withoutTweets (s.tweets.list.map StoredTweet.id)
  | .likes => { s with likes := .empty }
  | .follows => { s with follows := .empty }
  | .notifications => { s with notifications := .empty }
  | .hashtags => { s with hashtags := .empty, tagLinks := .empty }
  | .tagLinks => { s with tagLinks := .empty }

/-- Drop a table. -/
def dropTable (t : Table) (s : Store) : Except Cause Store := do
  s.require (t :: (s.schema.dependents t).flatMap Table.parents)
  let s' := s.clear t
  return { s' with schema := s'.schema.dropTable t, counters := s'.counters.forget t }

end Store

end Microblog
