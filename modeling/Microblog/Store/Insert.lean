import Microblog.Store.Basic

/-!
# Adding rows

A row is added from a draft, in which any value may be missing.  The conditions on it are checked in
this order: its number must be available, no value that has to be there may be missing, its values
may not contradict each other, it may repeat no key, and the rows that it names have to exist.

`ignoring` lets an insertion go on without its row when one of the conditions but the last fails.
-/

set_option autoImplicit false

namespace Microblog

/-- A value that has to be there. -/
def need {α : Type} : Option α → Except Cause α
  | some a => .ok a
  | none => .error .missing

/-- A condition on the values of a row. -/
def demand (cause : Cause) (p : Prop) [Decidable p] : Except Cause Unit :=
  if p then .ok () else .error cause

/-- The number of values that a statement may be given. -/
def maxValues : Nat := 32766

/-- Go on without the row when it conflicts with others or with the conditions on it. -/
def ignoring {α : Type} : Except Cause α → Except Cause (Option α)
  | .ok a => .ok (some a)
  | .error cause => if cause.isIgnored then .ok none else .error cause

/-- A number for a new row: the one that is asked for, or the next one. -/
def chooseId (asked : Option Int) (last : Int) : Except Cause Int := asked.elim (nextId last) .ok

/-- The number of a row that a cell names; what is no integer names none. -/
def named : Cell → Except Cause Int
  | .int n => .ok n
  | _ => .error .reference

/-- Add a row to a table, where it may not repeat a key. -/
def addRow {α κ : Type} [Row α κ] [DecidableEq κ] (rows : Rows α) (a : α) :
    Except Cause (Rows α) :=
  (rows.add? a).elim (.error .uniqueness) .ok

/-- A new account, any value of which may be missing. -/
structure UserDraft where
  id : Option Int := none
  username : Option String := none
  email : Option String := none
  displayName : Option String := none
  bio : Option String := none
  avatarUrl : Option String := none
  followersCount : Option Cell := some (.int 0)
  followingCount : Option Cell := some (.int 0)
  createdAt : Option String
  updatedAt : Option String

/-- A new tweet, any value of which may be missing. -/
structure TweetDraft where
  id : Option Int := none
  userId : Option Cell := none
  content : Option String := none
  mediaType : Option String := some "NONE"
  mediaUrl : Option String := none
  parentId : Option Cell := none
  retweetId : Option Cell := none
  replyCount : Option Cell := some (.int 0)
  retweetCount : Option Cell := some (.int 0)
  likeCount : Option Cell := some (.int 0)
  createdAt : Option String
  updatedAt : Option String

/-- A new like, any value of which may be missing. -/
structure LikeDraft where
  userId : Option Cell := none
  tweetId : Option Cell := none
  createdAt : Option String
  serial : Option Int := none

/-- A new follow, any value of which may be missing. -/
structure FollowDraft where
  followerId : Option Cell := none
  followingId : Option Cell := none
  createdAt : Option String
  serial : Option Int := none

/-- A new notification, any value of which may be missing. -/
structure NotificationDraft where
  id : Option Int := none
  recipientId : Option Cell := none
  actorId : Option Cell := none
  tweetId : Option Cell := none
  kind : Option String := none
  isRead : Option Cell := some (.int 0)
  createdAt : Option String

/-- A new hashtag, any value of which may be missing. -/
structure TagDraft where
  id : Option Int := none
  name : Option String := none
  createdAt : Option String

/-- A new link from a tweet to a hashtag, any value of which may be missing. -/
structure TagLinkDraft where
  tweetId : Option Cell := none
  tagId : Option Cell := none
  serial : Option Int := none

/-- The number of a new row within its table: the one that is asked for, which may not be taken, or
the next one. -/
def chooseSerial (asked : Option Int) (serials : List Int) : Except Cause Int := do
  demand .other (asked.all (· ∉ serials))
  return asked.getD (nextSerial serials)

namespace Store

/-- Add an account; its name and its address may not be taken.  Gives its number. -/
def insertUser (d : UserDraft) (s : Store) : Except Cause (Int × Store) := do
  s.requireAdding .users
  let id ← chooseId d.id s.counters.users
  let user : StoredUser := {
    id
    username := ← need d.username
    email := ← need d.email
    displayName := d.displayName
    bio := d.bio
    avatarUrl := d.avatarUrl
    followersCount := ← need d.followersCount
    followingCount := ← need d.followingCount
    createdAt := ← need d.createdAt
    updatedAt := ← need d.updatedAt }
  let users ← addRow s.users user
  demand .uniqueness (∀ u ∈ s.users.list, u.username ≠ user.username ∧ u.email ≠ user.email)
  return (id, { s with users, counters.users := max s.counters.users id })

/-- Add a tweet.  A retweet record has neither content nor media, and nobody retweets a tweet twice.
Gives its number. -/
def insertTweet (d : TweetDraft) (s : Store) : Except Cause (Int × Store) := do
  s.requireAdding .tweets
  let id ← chooseId d.id s.counters.tweets
  let author ← need d.userId
  let replyCount ← need d.replyCount
  let retweetCount ← need d.retweetCount
  let likeCount ← need d.likeCount
  let createdAt ← need d.createdAt
  let updatedAt ← need d.updatedAt
  demand .check (d.retweetId = none ∨ (d.content = none ∧ d.mediaUrl = none))
  demand .uniqueness (¬ s.tweets.has id)
  let userId ← named author
  let retweetId ← d.retweetId.mapM named
  demand .uniqueness (¬ s.schema.hasIndex .oneRetweet ∨ retweetId = none ∨
    ∀ t ∈ s.tweets.list, ¬ (t.userId = userId ∧ t.retweetId = retweetId))
  let parentId ← d.parentId.mapM named
  let tweets ← addRow s.tweets {
    id
    userId
    content := d.content
    mediaType := d.mediaType
    mediaUrl := d.mediaUrl
    parentId
    retweetId
    replyCount
    retweetCount
    likeCount
    createdAt
    updatedAt }
  demand .reference (s.users.has userId ∧ parentId.all tweets.has ∧ retweetId.all tweets.has)
  return (id, { s with tweets, counters.tweets := max s.counters.tweets id })

/-- Add a like.  Gives the number of the row. -/
def insertLike (d : LikeDraft) (s : Store) : Except Cause (Int × Store) := do
  s.requireAdding .likes
  let user ← need d.userId
  let tweet ← need d.tweetId
  let createdAt ← need d.createdAt
  let serial ← chooseSerial d.serial (s.likes.list.map Like.serial)
  let like : Like := { userId := ← named user, tweetId := ← named tweet, createdAt, serial }
  let likes ← addRow s.likes like
  demand .reference (s.users.has like.userId ∧ s.tweets.has like.tweetId)
  return (serial, { s with likes })

/-- Add a follow; nobody follows themselves.  Gives the number of the row. -/
def insertFollow (d : FollowDraft) (s : Store) : Except Cause (Int × Store) := do
  s.requireAdding .follows
  let follower ← need d.followerId
  let following ← need d.followingId
  let createdAt ← need d.createdAt
  demand .check (follower ≠ following)
  let serial ← chooseSerial d.serial (s.follows.list.map Follow.serial)
  let follow : Follow := {
    followerId := ← named follower
    followingId := ← named following
    createdAt
    serial }
  let follows ← addRow s.follows follow
  demand .reference (s.users.has follow.followerId ∧ s.users.has follow.followingId)
  return (serial, { s with follows })

/-- Add a notification.  Gives its number. -/
def insertNotification (d : NotificationDraft) (s : Store) : Except Cause (Int × Store) := do
  s.requireAdding .notifications
  let id ← chooseId d.id s.counters.notifications
  let recipient ← need d.recipientId
  let actor ← need d.actorId
  let kind ← need d.kind
  let isRead ← need d.isRead
  let createdAt ← need d.createdAt
  demand .uniqueness (¬ s.notifications.has id)
  let row : StoredNotification := {
    id
    recipientId := ← named recipient
    actorId := ← named actor
    tweetId := ← d.tweetId.mapM named
    kind
    isRead
    createdAt }
  let notifications ← addRow s.notifications row
  demand .reference (s.users.has row.recipientId ∧ s.users.has row.actorId ∧
    row.tweetId.all s.tweets.has)
  return (id, { s with
    notifications
    counters.notifications := max s.counters.notifications id })

/-- Add a hashtag; its name may not be taken.  Gives its number. -/
def insertTag (d : TagDraft) (s : Store) : Except Cause (Int × Store) := do
  s.requireAdding .hashtags
  let id ← chooseId d.id s.counters.hashtags
  let tag : Tag := { id, name := ← need d.name, createdAt := ← need d.createdAt }
  let hashtags ← addRow s.hashtags tag
  demand .uniqueness (∀ t ∈ s.hashtags.list, t.name ≠ tag.name)
  return (id, { s with hashtags, counters.hashtags := max s.counters.hashtags id })

/-- Link a tweet to a hashtag.  Gives the number of the row. -/
def insertTagLink (d : TagLinkDraft) (s : Store) : Except Cause (Int × Store) := do
  s.requireAdding .tagLinks
  let tweet ← need d.tweetId
  let tag ← need d.tagId
  let serial ← chooseSerial d.serial (s.tagLinks.list.map TagLink.serial)
  let link : TagLink := { tweetId := ← named tweet, tagId := ← named tag, serial }
  let tagLinks ← addRow s.tagLinks link
  demand .reference (s.tweets.has link.tweetId ∧ s.hashtags.has link.tagId)
  return (serial, { s with tagLinks })

end Store

end Microblog
