import Microblog.Store.Delete
import Microblog.Store.Insert
import Microblog.Store.Migration

/-!
# Rows in and out

`Store.dump` gives the rows of a table as JSON records with every column, ordered by key.
`Store.insertRow` adds a row that is given as a record: a column that is left out takes its default,
and `null` is a value that is missing.
-/

set_option autoImplicit false

namespace Microblog

open Text

/-! ## Out -/

/-- Whether one pair of numbers comes before another. -/
def pairPrecedes (a b : Int × Int) : Bool := a.1 < b.1 || (a.1 == b.1 && a.2 ≤ b.2)

/-- The rows in the order of a number. -/
def byNumber {α : Type} (key : α → Int) (rows : List α) : List α :=
  rows.mergeSort fun a b ↦ key a ≤ key b

/-- The rows in the order of a pair of numbers. -/
def byPair {α : Type} (key : α → Int × Int) (rows : List α) : List α :=
  rows.mergeSort fun a b ↦ pairPrecedes (key a) (key b)

namespace StoredUser

/-- The columns of an account. -/
def toJson (u : StoredUser) : Json :=
  .record [("id", .int u.id), ("username", .text u.username), ("email", .text u.email),
    ("display_name", .option .text u.displayName), ("bio", .option .text u.bio),
    ("avatar_url", .option .text u.avatarUrl), ("followers_count", u.followersCount.toJson),
    ("following_count", u.followingCount.toJson), ("created_at", .text u.createdAt),
    ("updated_at", .text u.updatedAt)]

end StoredUser

namespace StoredTweet

/-- The columns of a tweet. -/
def toJson (t : StoredTweet) : Json :=
  .record [("id", .int t.id), ("user_id", .int t.userId), ("content", .option .text t.content),
    ("media_type", .option .text t.mediaType), ("media_url", .option .text t.mediaUrl),
    ("parent_id", .option .int t.parentId), ("retweet_id", .option .int t.retweetId),
    ("reply_count", t.replyCount.toJson), ("retweet_count", t.retweetCount.toJson),
    ("like_count", t.likeCount.toJson), ("created_at", .text t.createdAt),
    ("updated_at", .text t.updatedAt)]

end StoredTweet

namespace Like

/-- The columns of a like. -/
def toJson (l : Like) : Json :=
  .record [("user_id", .int l.userId), ("tweet_id", .int l.tweetId),
    ("created_at", .text l.createdAt)]

end Like

namespace Follow

/-- The columns of a follow. -/
def toJson (f : Follow) : Json :=
  .record [("follower_id", .int f.followerId), ("following_id", .int f.followingId),
    ("created_at", .text f.createdAt)]

end Follow

namespace StoredNotification

/-- The columns of a notification. -/
def toJson (n : StoredNotification) : Json :=
  .record [("id", .int n.id), ("recipient_id", .int n.recipientId), ("actor_id", .int n.actorId),
    ("tweet_id", .option .int n.tweetId), ("kind", .text n.kind),
    ("is_read", n.isRead.toJson), ("created_at", .text n.createdAt)]

end StoredNotification

namespace Tag

/-- The columns of a hashtag. -/
def toJson (t : Tag) : Json :=
  .record [("id", .int t.id), ("name", .text t.name), ("created_at", .text t.createdAt)]

end Tag

namespace TagLink

/-- The columns of a link from a tweet to a hashtag. -/
def toJson (l : TagLink) : Json :=
  .record [("tweet_id", .int l.tweetId), ("hashtag_id", .int l.tagId)]

end TagLink

namespace Store

/-- The rows of a table that is there. -/
def dumpTable (s : Store) : Table → List Json
  | .users => (byNumber StoredUser.id s.users.list).map StoredUser.toJson
  | .tweets => (byNumber StoredTweet.id s.tweets.list).map StoredTweet.toJson
  | .likes => (byPair Row.key s.likes.list).map Like.toJson
  | .follows => (byPair Row.key s.follows.list).map Follow.toJson
  | .notifications =>
    (byNumber StoredNotification.id s.notifications.list).map StoredNotification.toJson
  | .hashtags => (byNumber Tag.id s.hashtags.list).map Tag.toJson
  | .tagLinks => (byPair Row.key s.tagLinks.list).map TagLink.toJson

/-- The name of the table of versions. -/
def versionTable : String := "_schema_version"

/-- Whether a name is that of the table of versions. -/
def isVersionTable (name : String) : Bool := sameName versionTable name

/-- The rows of the table with a name. -/
def dump (name : String) (s : Store) : Except Cause (List Json) :=
  if isVersionTable name then
    match s.schema.versions with
    | some vs => .ok ((byNumber id vs).map fun v ↦ .record [("version", .int v)])
    | none => .error .other
  else do
    match Table.ofName? name with
    | none => .error .other
    | some t =>
      s.require [t]
      return s.dumpTable t

end Store

/-! ## In -/

/-- The value that a JSON value stands for; `null` stands for none. -/
def Cell.ofJson : Json → Except Cause (Option Cell)
  | .null => .ok none
  | .bool b => .ok (some (.int (if b then 1 else 0)))
  | .number (.int n) => .ok (some (if Decimal.Fits n then .int n else .real (.ofInt n)))
  | .number (.decimal isNegative digits exponent) =>
    .ok (some (.real (.ofDecimal (if isNegative then -(digits : Int) else digits) exponent)))
  | .text s => .ok (some (.text s))
  | .list _ | .record _ => .error .other

/-- The values of a new row by the names of their columns, in the order of the names. -/
abbrev Given := List (String × Option Cell)

namespace Given

/-- The values that a record gives: at least one, each of its own column. -/
def ofJson (row : Json) (columns : List String) : Except Cause Given :=
  match row with
  | .record (member :: members) => do
    let named := (member :: members).mergeSort fun a b ↦ !(b.1 < a.1)
    demand .other (named.all fun m ↦ columns.any (sameName m.1))
    named.mapM fun m ↦ return (m.1, ← Cell.ofJson m.2)
  | _ => .error .other

/-- The value in a column, `default` if the column is left out. -/
def get (g : Given) (column : String) (default : Option Cell) : Option Cell :=
  ((g.find? fun m ↦ sameName m.1 column).map (·.2)).getD default

/-- The text in a column. -/
def text (g : Given) (column : String) (default : Option String := none) : Option String :=
  (g.get column (default.map .text)).map Cell.toText

/-- The value in a column for integers. -/
def cell (g : Given) (column : String) (default : Option Cell := none) : Option Cell :=
  (g.get column default).map Cell.toIntegral

/-- The value in a column for counters, which is zero if it is left out. -/
def counter (g : Given) (column : String) : Option Cell := g.cell column (some (.int 0))

/-- The names of the number of a row. -/
def numberNames : List String := ["rowid", "oid", "_rowid_"]

/-- The number of the row, which also the column `key` gives if there is one; the last one counts.
It has to be an integer. -/
def number (g : Given) (key : List String) : Except Cause (Option Int) :=
  match (g.findRev? fun m ↦ (key ++ numberNames).any (sameName m.1)).bind (·.2) with
  | none => .ok none
  | some c =>
    match c.toIntegral with
    | .int n => .ok (some n)
    | _ => .error .other

end Given

namespace Store

/-- The columns of a table but the number of its rows. -/
def columns : Table → List String
  | .users => ["username", "email", "display_name", "bio", "avatar_url", "followers_count",
      "following_count", "created_at", "updated_at"]
  | .tweets => ["user_id", "content", "media_type", "media_url", "parent_id", "retweet_id",
      "reply_count", "retweet_count", "like_count", "created_at", "updated_at"]
  | .likes => ["user_id", "tweet_id", "created_at"]
  | .follows => ["follower_id", "following_id", "created_at"]
  | .notifications => ["recipient_id", "actor_id", "tweet_id", "kind", "is_read", "created_at"]
  | .hashtags => ["name", "created_at"]
  | .tagLinks => ["tweet_id", "hashtag_id"]

/-- The column that holds the number of the rows of a table, if there is one. -/
def keyColumn : Table → List String
  | .users | .tweets | .notifications | .hashtags => ["id"]
  | .likes | .follows | .tagLinks => []

/-- Add a row that is given as a record.  Gives its number. -/
def insertRow (now : Nat) (table : Table) (row : Json) (s : Store) :
    Except Cause (Int × Store) := do
  let key := keyColumn table
  let g ← Given.ofJson row (key ++ Given.numberNames ++ columns table)
  let number ← g.number key
  let stamp := some (stamp now)
  match table with
  | .users =>
    s.insertUser {
      id := number
      username := g.text "username"
      email := g.text "email"
      displayName := g.text "display_name"
      bio := g.text "bio"
      avatarUrl := g.text "avatar_url"
      followersCount := g.counter "followers_count"
      followingCount := g.counter "following_count"
      createdAt := g.text "created_at" stamp
      updatedAt := g.text "updated_at" stamp }
  | .tweets =>
    s.insertTweet {
      id := number
      userId := g.cell "user_id"
      content := g.text "content"
      mediaType := g.text "media_type" (some "NONE")
      mediaUrl := g.text "media_url"
      parentId := g.cell "parent_id"
      retweetId := g.cell "retweet_id"
      replyCount := g.counter "reply_count"
      retweetCount := g.counter "retweet_count"
      likeCount := g.counter "like_count"
      createdAt := g.text "created_at" stamp
      updatedAt := g.text "updated_at" stamp }
  | .likes =>
    s.insertLike {
      userId := g.cell "user_id"
      tweetId := g.cell "tweet_id"
      createdAt := g.text "created_at" stamp
      serial := number }
  | .follows =>
    s.insertFollow {
      followerId := g.cell "follower_id"
      followingId := g.cell "following_id"
      createdAt := g.text "created_at" stamp
      serial := number }
  | .notifications =>
    s.insertNotification {
      id := number
      recipientId := g.cell "recipient_id"
      actorId := g.cell "actor_id"
      tweetId := g.cell "tweet_id"
      kind := g.text "kind"
      isRead := g.counter "is_read"
      createdAt := g.text "created_at" stamp }
  | .hashtags =>
    s.insertTag {
      id := number
      name := g.text "name"
      createdAt := g.text "created_at" stamp }
  | .tagLinks =>
    s.insertTagLink {
      tweetId := g.cell "tweet_id"
      tagId := g.cell "hashtag_id"
      serial := number }

/-- Note the version that is given as a record; without one, the version after the greatest. -/
def insertVersion (row : Json) (s : Store) : Except Cause (Int × Store) := do
  let key := ["version"]
  let g ← Given.ofJson row (key ++ Given.numberNames)
  let version := (← g.number key).getD (nextSerial (s.schema.versions.getD []))
  return (version, ← Migration.execute s (.noteVersion version))

/-- Add a row to the table with a name. -/
def insertInto (now : Nat) (name : String) (row : Json) (s : Store) :
    Except Cause (Int × Store) :=
  if isVersionTable name then s.insertVersion row
  else
    match Table.ofName? name with
    | some table => s.insertRow now table row
    | none => .error .other

/-! ## Opening again -/

/-- Drop the table with a name. -/
def dropNamed (name : String) (s : Store) : Except Cause Store :=
  if isVersionTable name then
    if s.schema.versions.isSome then .ok { s with schema.versions := none } else .error .other
  else (Table.ofName? name).elim (.error .other) s.dropTable

/-- Carry out statements up to the first one that fails; what was done before it stays. -/
def runEach (s : Store) : List (Store → Except Cause Store) → Except Cause Unit × Store
  | [] => (.ok (), s)
  | f :: fs =>
    match f s with
    | .ok s => s.runEach fs
    | .error cause => (.error cause, s)

/-- Note a version, if one is given, and drop tables. -/
def prepare (version : Option Int) (dropped : List String) (s : Store) :
    Except Cause Unit × Store :=
  s.runEach ((version.map setVersion).toList ++ dropped.map dropNamed)

end Store

end Microblog
