import Microblog.Page
import Microblog.Store.Delete
import Microblog.Store.Insert
import Microblog.Text.Pattern

/-!
# Tweets in the store

Statements on tweets: posting, deleting, retweeting, liking, look-up by number, and listings.  A
tweet counts its replies, retweets and likes; the statements that add or delete one of these change
the counter of the tweet that it is about.  Feeds list the newest tweet first, a thread the oldest
reply.
-/

set_option autoImplicit false

namespace Microblog

open Text

namespace Store

/-! ## Counters -/

/-- Change the number of replies to a tweet. -/
def changeReplies (id : Int) (f : Cell → Cell) (s : Store) : Store :=
  { s with
    tweets := s.tweets.changeAt id (fun t ↦ { t with replyCount := f t.replyCount })
      fun _ ↦ rfl }

/-- Change the number of retweets of a tweet. -/
def changeRetweets (id : Int) (f : Cell → Cell) (s : Store) : Store :=
  { s with
    tweets := s.tweets.changeAt id (fun t ↦ { t with retweetCount := f t.retweetCount })
      fun _ ↦ rfl }

/-- Change the number of likes of a tweet. -/
def changeLikes (id : Int) (f : Cell → Cell) (s : Store) : Store :=
  { s with
    tweets := s.tweets.changeAt id (fun t ↦ { t with likeCount := f t.likeCount })
      fun _ ↦ rfl }

/-! ## Single tweets -/

/-- A tweet. -/
def tweet? (id : Int) (s : Store) : Except StoreError (Option Tweet) :=
  during "fetch tweet" do
    s.require [.tweets]
    (s.tweets.get? id).mapM StoredTweet.read

/-- A statement that shows tweets to a viewer needs these tables. -/
def requireSeen (s : Store) : Except Cause Unit := s.require [.tweets, .likes, .follows]

/-- A tweet as a viewer sees it. -/
def seenTweet? (id : Int) (viewer : Option Int) (s : Store) :
    Except StoreError (Option SeenTweet) :=
  during "fetch tweet row" do
    s.requireSeen
    (s.tweets.get? id).mapM (s.seeTweet viewer)

/-- The tweets with these numbers, each once, by number. -/
def tweetsByIds (ids : List Int) (viewer : Option Int) (s : Store) :
    Except StoreError (List SeenTweet) :=
  if ids.isEmpty then .ok []
  else
    during "fetch tweets by ids" do
      s.requireSeen
      demand .other (ids.length + 3 ≤ maxValues)
      let found := s.tweets.list.filter fun t ↦ ids.contains t.id
      (found.mergeSort StoredTweet.isOlder).mapM (s.seeTweet viewer)

/-! ## Posting and deleting -/

/-- Post a tweet, or a reply to `parent`. -/
def createTweet (now : Nat) (user : Int) (content : Option String) (parent : Option Int)
    (s : Store) : Except StoreError (Tweet × Store) := do
  let stamp := stamp now
  let (id, s) ← during "insert tweet" <| s.insertTweet {
    userId := some (.int user)
    content
    parentId := parent.map .int
    createdAt := some stamp
    updatedAt := some stamp }
  let s := parent.elim s fun p ↦ s.changeReplies p Cell.increment
  let tweet ← during "fetch tweet" ((s.tweets.get? id).elim (.error .noRow) StoredTweet.read)
  return (tweet, s)

/-- Delete a tweet of `user` with all that hangs on it; gives whether it was there. -/
def deleteTweet (id user : Int) (s : Store) : Except StoreError (Bool × Store) := do
  during "look up tweet for deletion" (s.require [.tweets])
  match (s.tweets.get? id).filter (·.userId = user) with
  | none => return (false, s)
  | some tweet =>
    let (_, s) ← during "delete tweet" <|
      s.deleteTweets fun t ↦ t.id = id ∧ t.userId = user
    return (true, tweet.parentId.elim s fun p ↦ s.changeReplies p Cell.decrement)

/-! ## Retweets -/

/-- Let `user` retweet a tweet; gives the retweet record, if it is new. -/
def createRetweet (now : Nat) (user target : Int) (s : Store) :
    Except StoreError (Option Tweet × Store) := do
  let stamp := stamp now
  let added ← during "insert retweet" <| ignoring <| s.insertTweet {
    userId := some (.int user)
    retweetId := some (.int target)
    createdAt := some stamp
    updatedAt := some stamp }
  match added with
  | none => return (none, s)
  | some (id, s) =>
    let s := s.changeRetweets target Cell.increment
    let record ← during "fetch tweet" ((s.tweets.get? id).mapM StoredTweet.read)
    return (record, s)

/-- Take a retweet of `user` back; gives whether there was one. -/
def deleteRetweet (user target : Int) (s : Store) : Except StoreError (Bool × Store) := do
  let (n, s) ← during "delete retweet" <|
    s.deleteTweets fun t ↦ t.userId = user ∧ t.retweetId = some target
  if n = 0 then return (false, s)
  else return (true, s.changeRetweets target Cell.decrement)

/-! ## Likes -/

/-- Let `user` like a tweet; gives whether that is new. -/
def like (now : Nat) (user tweet : Int) (s : Store) : Except StoreError (Bool × Store) := do
  let added ← during "insert like" <| ignoring <| s.insertLike {
    userId := some (.int user)
    tweetId := some (.int tweet)
    createdAt := some (stamp now) }
  match added with
  | some (_, s) => return (true, s.changeLikes tweet Cell.increment)
  | none => return (false, s)

/-- Let `user` no longer like a tweet; gives whether they did. -/
def unlike (user tweet : Int) (s : Store) : Except StoreError (Bool × Store) := do
  let (n, s) ← during "delete like" <|
    s.deleteLikes fun l ↦ l.userId = user ∧ l.tweetId = tweet
  if n = 0 then return (false, s) else return (true, s.changeLikes tweet Cell.decrement)

/-! ## Listings -/

/-- A page of the tweets that satisfy `p`, in an order, as a viewer sees them. -/
def listTweets (task : String) (p : StoredTweet → Bool)
    (order : StoredTweet → StoredTweet → Bool) (page : Page) (viewer : Option Int) (s : Store) :
    Except StoreError (List SeenTweet) :=
  during task do
    s.requireSeen
    (page.of ((s.tweets.list.filter p).mergeSort order)).mapM (s.seeTweet viewer)

/-- Tweets and retweet records of everybody, without replies. -/
def globalFeed (page : Page) (viewer : Option Int) (s : Store) :
    Except StoreError (List SeenTweet) :=
  s.listTweets "list global feed" (·.parentId = none) StoredTweet.isNewer page viewer

/-- Tweets and retweet records of `user` and of whom they follow, without replies. -/
def followingFeed (user : Int) (page : Page) (s : Store) :
    Except StoreError (List SeenTweet) :=
  s.listTweets "list following feed"
    (fun t ↦ t.parentId = none ∧ (t.userId = user ∨ s.follows? (some user) t.userId))
    StoredTweet.isNewer page (some user)

/-- Everything that `user` posted. -/
def userTweets (user : Int) (page : Page) (viewer : Option Int) (s : Store) :
    Except StoreError (List SeenTweet) :=
  s.listTweets "list user tweets" (·.userId = user) StoredTweet.isNewer page viewer

/-- The replies to a tweet. -/
def replies (tweet : Int) (page : Page) (viewer : Option Int) (s : Store) :
    Except StoreError (List SeenTweet) :=
  s.listTweets "list replies" (·.parentId = some tweet) StoredTweet.isOlder page viewer

/-! ## Search -/

/-- The names of the hashtags that a tweet carries. -/
def tagNames (s : Store) (tweet : Int) : List String :=
  s.tagLinks.list.filterMap fun l ↦
    if l.tweetId = tweet then (s.hashtags.get? l.tagId).map Tag.name else none

/-- The tweets that carry a hashtag. -/
def tweetsByHashtag (tag : String) (page : Page) (viewer : Option Int) (s : Store) :
    Except StoreError (List SeenTweet) := do
  let task := "search tweets by hashtag"
  during task (s.require [.tagLinks, .hashtags])
  s.listTweets task (fun t ↦ (s.tagNames t.id).contains tag) StoredTweet.isNewer page viewer

/-- The number of terms from which on a search is too large for the store. -/
def maxTerms : Nat := 997

/-- Whether a text matches the patterns up to the first one that is too long, so that this one has
to be looked at. -/
def reachesTooLong (text : List Char) : List (List Char) → Bool
  | [] => false
  | p :: ps => !Pattern.fits p || (Pattern.like text p && reachesTooLong text ps)

/-- The tweets whose text contains every term. -/
def tweetsByTerms (terms : List String) (page : Page) (viewer : Option Int) (s : Store) :
    Except StoreError (List SeenTweet) :=
  if terms.isEmpty then .ok []
  else do
    let task := "search tweets"
    let patterns := terms.map Pattern.containing
    let texts := s.tweets.list.filterMap fun t ↦ t.content.map String.toList
    during task do
      s.requireSeen
      demand .other (terms.length < maxTerms)
      demand .other (page.limit = 0 ∨ ∀ text ∈ texts, ¬ reachesTooLong text patterns)
    s.listTweets task
      (fun t ↦ t.content.any fun c ↦ patterns.all (Pattern.like c.toList ·))
      StoredTweet.isNewer page viewer

end Store

end Microblog
