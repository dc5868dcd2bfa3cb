import Microblog.Record.Tweet
import Microblog.Record.User

/-!
# Timeline items

An `Item` is a tweet with all that is shown along with it: its author, what the viewer did with it,
the handle of the author that it answers, and the tweet that it retweets.  That tweet, a
`Reference`, comes with its author only, so an item nests no deeper than one level.
-/

set_option autoImplicit false

namespace Microblog

/-- A tweet that another one refers to, with its author. -/
structure Reference where
  tweet : Tweet
  author : SeenUser
  isLiked : Bool
  isRetweeted : Bool
deriving DecidableEq, Repr

/-- A tweet with what is shown along with it. -/
structure Item where
  tweet : Tweet
  author : SeenUser
  /-- What the viewer did with the tweet. -/
  flags : ViewerFlags
  /-- The handle of the author of the tweet that is answered. -/
  parentHandle : Option String
  /-- The tweet that is retweeted. -/
  retweeted : Option Reference
deriving DecidableEq, Repr

namespace Reference

/-- The record of a reference. -/
def toJson (r : Reference) : Json :=
  .record [("tweet", r.tweet.toJson), ("author", r.author.toNestedJson),
    ("is_liked", .bool r.isLiked), ("is_retweeted", .bool r.isRetweeted)]

end Reference

namespace Item

/-- The record of an item. -/
def toJson (i : Item) : Json :=
  .record [("tweet", i.tweet.toJson), ("author", i.author.toNestedJson),
    ("is_liked", .bool i.flags.isLiked), ("is_retweeted", .bool i.flags.isRetweeted),
    ("is_following_author", .bool i.flags.isFollowing),
    ("parent_author_handle", .option .text i.parentHandle),
    ("original_tweet", .option Reference.toJson i.retweeted)]

end Item

/-! ## As the interface shows them -/

/-- A tweet as the interface shows it; the tweet that it retweets has no member when there is none.
-/
def presentTweet (tweet : Tweet) (author : SeenUser) (flags : ViewerFlags) (retweeted : Option Json)
    (parentHandle : Option String) : Json :=
  .record ([("id", .int tweet.id), ("content", .option .text tweet.content),
    ("mediaType", .option .text tweet.mediaType), ("mediaUrl", .option .text tweet.mediaUrl),
    ("user", author.present), ("replyCount", .int tweet.replyCount),
    ("likeCount", .int tweet.likeCount), ("retweetCount", .int tweet.retweetCount),
    ("isLiked", .bool flags.isLiked), ("isRetweeted", .bool flags.isRetweeted),
    ("isFollowingAuthor", .bool flags.isFollowing)] ++
    retweeted.toList.map (("original", ·)) ++
    [("parentId", .option .int tweet.parentId), ("parentUsername", .option .text parentHandle),
      ("createdAt", .text tweet.createdAt)])

/-- A reference as the interface shows it. -/
def Reference.present (r : Reference) : Json :=
  presentTweet r.tweet r.author ⟨r.isLiked, r.isRetweeted, r.author.isFollowing⟩ none none

/-- An item as the interface shows it. -/
def Item.present (i : Item) : Json :=
  presentTweet i.tweet i.author i.flags (i.retweeted.map Reference.present) i.parentHandle

/-- Give the items the flags at their positions; what is left over on either side counts for
nothing. -/
def applyFlags : List Item → List ViewerFlags → List Item
  | item :: items, flags :: rest => { item with flags } :: applyFlags items rest
  | items, _ => items

end Microblog
