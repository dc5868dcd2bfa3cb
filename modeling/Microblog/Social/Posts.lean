import Microblog.Social.Timelines
import Microblog.Text.Blank
import Microblog.Text.Hashtag

/-!
# Posts

What somebody does with tweets: post, answer, delete, like and retweet.  A retweet of a retweet
record is one of the tweet that the record points at, so no record points at another.
-/

set_option autoImplicit false

namespace Microblog.Action

open Text

/-- The number of a hashtag, which is added if it is new. -/
def upsertTag (tag : String) : Action Int := do
  change fun now ↦ Store.addTag now tag
  ask (Store.tagId tag)

/-- Let a tweet carry a hashtag; if this fails, it does not. -/
def recordTag (tweet : Int) (tag : String) : Action Unit :=
  attempt do
    let id ← upsertTag tag
    change fun _ ↦ Store.linkTag tweet id

/-- Let a tweet carry some hashtags. -/
def recordTags (tweet : Int) : List String → Action Unit
  | [] => pure ()
  | tag :: tags => do
    recordTag tweet tag
    recordTags tweet tags

/-- Post a tweet, or a reply to `parent`, whose author is told. -/
def createTweet (user : Int) (content : Option String) (parent : Option Int) : Action Item := do
  let content ← orFail .noText (tidy content)
  requireActor user
  let answered ← match parent with
    | some id => do pure (some (← requireTweet id))
    | none => pure none
  let tweet ← change fun now ↦ Store.createTweet now user (some content) parent
  match answered with
  | some answered => notify answered.userId user (some tweet.id) .reply
  | none => pure ()
  recordTags tweet.id (hashtags content)
  getTweet tweet.id (some user)

/-- Delete a tweet of one's own.  Deleting a retweet record takes the retweet back. -/
def deleteTweet (user tweet : Int) : Action Unit := do
  let t ← requireTweet tweet
  if t.userId ≠ user then fail .notAuthor
  match t.retweetId with
  | some target =>
    let _ ← change fun _ ↦ Store.deleteRetweet user target
  | none =>
    let _ ← change fun _ ↦ Store.deleteTweet tweet user

/-- Like a tweet; its author is told if that is new. -/
def like (user tweet : Int) : Action Unit := do
  requireActor user
  let t ← requireTweet tweet
  if ← change fun now ↦ Store.like now user tweet then
    notify t.userId user (some t.id) .like

/-- Like a tweet no longer. -/
def unlike (user tweet : Int) : Action Unit := do
  let _ ← change fun _ ↦ Store.unlike user tweet

/-- The tweet itself, or the one that it points at. -/
def resolve (tweet : Int) : Action Tweet := do
  let t ← requireTweet tweet
  match t.retweetId with
  | some target => requireTweet target
  | none => return t

/-- Retweet a tweet, whose author is told. -/
def retweet (user tweet : Int) : Action Item := do
  requireActor user
  let target ← resolve tweet
  let record ← orFail .alreadyRetweeted
    (← change fun now ↦ Store.createRetweet now user target.id)
  notify target.userId user (some target.id) .retweet
  getTweet record.id (some user)

/-- Take a retweet back, if there is one. -/
def undoRetweet (user tweet : Int) : Action Unit := do
  let target ← resolve tweet
  let _ ← change fun _ ↦ Store.deleteRetweet user target.id

end Microblog.Action
