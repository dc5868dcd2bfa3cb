import Microblog.Json.Printer
import Microblog.Json.Shape

/-!
# Tweets

A `Tweet` is a post, a reply (it has a parent) or a retweet record (it points at the tweet that is
retweeted and has no content of its own).  A `SeenTweet` is a tweet as some viewer sees it.
-/

set_option autoImplicit false

namespace Microblog

/-- A tweet, a reply or a retweet record. -/
structure Tweet where
  id : Int
  userId : Int
  content : Option String
  mediaType : Option String
  mediaUrl : Option String
  /-- The tweet that is answered. -/
  parentId : Option Int
  /-- The tweet that is retweeted. -/
  retweetId : Option Int
  replyCount : Int
  retweetCount : Int
  likeCount : Int
  createdAt : String
  updatedAt : String
deriving DecidableEq, Repr

namespace Tweet

/-- Whether the tweet is a retweet record. -/
def isRetweet (t : Tweet) : Bool := t.retweetId.isSome

/-- The tweet that likes and retweets of `t` are about: what a retweet record points at, and else
`t` itself. -/
def target (t : Tweet) : Int := t.retweetId.getD t.id

/-- The members of the record of a tweet. -/
def members (t : Tweet) : List (String × Json) :=
  [("id", .int t.id), ("user_id", .int t.userId), ("content", .option .text t.content),
    ("media_type", .option .text t.mediaType), ("media_url", .option .text t.mediaUrl),
    ("parent_id", .option .int t.parentId), ("retweet_id", .option .int t.retweetId),
    ("reply_count", .int t.replyCount), ("retweet_count", .int t.retweetCount),
    ("like_count", .int t.likeCount), ("created_at", .text t.createdAt),
    ("updated_at", .text t.updatedAt)]

/-- The record of a tweet. -/
def toJson (t : Tweet) : Json := .record t.members

/-- How the record of a tweet is read. -/
def shape : Shape Tweet :=
  (Shape.of Tweet.mk).required "id" Draft.asInt
    |>.required "user_id" Draft.asInt
    |>.optional "content" Draft.asText
    |>.optional "media_type" Draft.asText
    |>.optional "media_url" Draft.asText
    |>.optional "parent_id" Draft.asInt
    |>.optional "retweet_id" Draft.asInt
    |>.required "reply_count" Draft.asInt
    |>.required "retweet_count" Draft.asInt
    |>.required "like_count" Draft.asInt
    |>.required "created_at" Draft.asText
    |>.required "updated_at" Draft.asText

/-- A tweet, from its record. -/
def decode : Decoder Tweet := shape.decode

end Tweet

/-- What a viewer did with a tweet. -/
structure ViewerFlags where
  /-- The viewer likes the tweet, or what it retweets. -/
  isLiked : Bool
  /-- The viewer retweeted the tweet, or what it retweets. -/
  isRetweeted : Bool
  /-- The viewer follows the author. -/
  isFollowing : Bool
deriving DecidableEq, Repr

/-- The flags of somebody who did nothing. -/
def ViewerFlags.none : ViewerFlags := ⟨false, false, false⟩

/-- A tweet as a viewer sees it. -/
structure SeenTweet where
  tweet : Tweet
  flags : ViewerFlags
deriving DecidableEq, Repr

namespace SeenTweet

/-- The flat record of a tweet as a viewer sees it. -/
def toJson (t : SeenTweet) : Json :=
  .record (t.tweet.members ++
    [("is_liked", .bool t.flags.isLiked), ("is_retweeted", .bool t.flags.isRetweeted),
      ("is_following", .bool t.flags.isFollowing)])

/-- How the flat record is read. -/
def shape : Shape SeenTweet :=
  (Tweet.shape.map fun tweet isLiked isRetweeted isFollowing ↦
      SeenTweet.mk tweet ⟨isLiked, isRetweeted, isFollowing⟩).required "is_liked" Draft.asBool
    |>.required "is_retweeted" Draft.asBool
    |>.required "is_following" Draft.asBool

/-- A tweet as a viewer sees it, from its flat record. -/
def decode : Decoder SeenTweet := shape.decodeJoined

end SeenTweet

end Microblog
