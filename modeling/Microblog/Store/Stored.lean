import Microblog.Record.Notification
import Microblog.Record.Tweet
import Microblog.Record.User
import Microblog.Store.Cell
import Microblog.Store.Rows

/-!
# Stored rows

The rows of the tables.  What a row counts or marks is a cell, which may hold something else than an
integer.  Such a row stays in its table and can be changed and deleted, but it cannot be read as an
account, a tweet or a notification.
-/

set_option autoImplicit false

namespace Microblog

/-! ## Accounts -/

/-- An account as it is stored. -/
structure StoredUser where
  id : Int
  username : String
  email : String
  displayName : Option String
  bio : Option String
  avatarUrl : Option String
  followersCount : Cell
  followingCount : Cell
  createdAt : String
  updatedAt : String
deriving DecidableEq, Repr

instance : Row StoredUser Int := ⟨StoredUser.id⟩

/-- The account, if its counters can be read. -/
def StoredUser.read (u : StoredUser) : Except Cause User := do
  return {
    id := u.id
    username := u.username
    email := u.email
    displayName := u.displayName
    bio := u.bio
    avatarUrl := u.avatarUrl
    followersCount := ← u.followersCount.read "followers_count"
    followingCount := ← u.followingCount.read "following_count"
    createdAt := u.createdAt
    updatedAt := u.updatedAt }

/-! ## Tweets -/

/-- A tweet as it is stored. -/
structure StoredTweet where
  id : Int
  userId : Int
  content : Option String
  mediaType : Option String
  mediaUrl : Option String
  parentId : Option Int
  retweetId : Option Int
  replyCount : Cell
  retweetCount : Cell
  likeCount : Cell
  createdAt : String
  updatedAt : String
deriving DecidableEq, Repr

instance : Row StoredTweet Int := ⟨StoredTweet.id⟩

namespace StoredTweet

/-- The tweet, if its counters can be read. -/
def read (t : StoredTweet) : Except Cause Tweet := do
  return {
    id := t.id
    userId := t.userId
    content := t.content
    mediaType := t.mediaType
    mediaUrl := t.mediaUrl
    parentId := t.parentId
    retweetId := t.retweetId
    replyCount := ← t.replyCount.read "reply_count"
    retweetCount := ← t.retweetCount.read "retweet_count"
    likeCount := ← t.likeCount.read "like_count"
    createdAt := t.createdAt
    updatedAt := t.updatedAt }

/-- The newer tweet comes first. -/
def isNewer (a b : StoredTweet) : Bool := b.id ≤ a.id

/-- The older tweet comes first. -/
def isOlder (a b : StoredTweet) : Bool := a.id ≤ b.id

end StoredTweet

/-! ## Likes and follows -/

/-- Somebody likes a tweet. -/
structure Like where
  userId : Int
  tweetId : Int
  createdAt : String
  /-- The number of the row within its table. -/
  serial : Int
deriving DecidableEq, Repr

instance : Row Like (Int × Int) := ⟨fun l ↦ (l.userId, l.tweetId)⟩

/-- Somebody follows somebody. -/
structure Follow where
  followerId : Int
  followingId : Int
  createdAt : String
  /-- The number of the row within its table. -/
  serial : Int
deriving DecidableEq, Repr

instance : Row Follow (Int × Int) := ⟨fun f ↦ (f.followerId, f.followingId)⟩

/-! ## Notifications -/

/-- A notification as it is stored: its kind is any text. -/
structure StoredNotification where
  id : Int
  recipientId : Int
  actorId : Int
  tweetId : Option Int
  kind : String
  isRead : Cell
  createdAt : String
deriving DecidableEq, Repr

instance : Row StoredNotification Int := ⟨StoredNotification.id⟩

namespace StoredNotification

/-- The notification, if its kind is one that is known and its mark can be read. -/
def read (n : StoredNotification) : Except Cause Notification := do
  match NotificationKind.ofName? n.kind with
  | some kind =>
    return {
      id := n.id
      recipientId := n.recipientId
      actorId := n.actorId
      tweetId := n.tweetId
      kind
      isRead := (← n.isRead.read "is_read") ≠ 0
      createdAt := n.createdAt }
  | none => .error (.column "kind")

/-- The newer notification comes first. -/
def isNewer (a b : StoredNotification) : Bool := b.id ≤ a.id

/-- Whether `recipient` has not read the notification. -/
def isUnreadBy (recipient : Int) (n : StoredNotification) : Bool :=
  n.recipientId == recipient && n.isRead == .int 0

/-- The notification, read by now if it is one of `recipient`. -/
def markedBy (recipient : Int) (n : StoredNotification) : StoredNotification :=
  if n.isUnreadBy recipient then { n with isRead := .int 1 } else n

theorem id_markedBy (recipient : Int) (n : StoredNotification) :
    (n.markedBy recipient).id = n.id := by
  unfold markedBy
  split <;> rfl

end StoredNotification

/-! ## Hashtags -/

/-- A hashtag as it is stored. -/
structure Tag where
  id : Int
  name : String
  createdAt : String
deriving DecidableEq, Repr

instance : Row Tag Int := ⟨Tag.id⟩

/-- A tweet carries a hashtag. -/
structure TagLink where
  tweetId : Int
  tagId : Int
  /-- The number of the row within its table. -/
  serial : Int
deriving DecidableEq, Repr

instance : Row TagLink (Int × Int) := ⟨fun l ↦ (l.tweetId, l.tagId)⟩

end Microblog
