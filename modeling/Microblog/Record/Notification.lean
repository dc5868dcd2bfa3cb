import Microblog.Json.Printer
import Microblog.Json.Shape

/-!
# Notifications

A `Notification` tells a user what somebody else did: liked, retweeted or answered a tweet, or began
to follow.
-/

set_option autoImplicit false

namespace Microblog

/-- What somebody did. -/
inductive NotificationKind where
  | like
  | retweet
  | reply
  | follow
deriving DecidableEq, Repr

namespace NotificationKind

/-- The word for a kind. -/
def name : NotificationKind → String
  | .like => "LIKE"
  | .retweet => "RETWEET"
  | .reply => "REPLY"
  | .follow => "FOLLOW"

/-- The kind that a word names. -/
def ofName? : String → Option NotificationKind
  | "LIKE" => some .like
  | "RETWEET" => some .retweet
  | "REPLY" => some .reply
  | "FOLLOW" => some .follow
  | _ => none

theorem ofName?_name (k : NotificationKind) : ofName? k.name = some k := by cases k <;> rfl

/-- A kind, from its word or from a record whose one member is named by the word and is `null`. -/
def decode : Decoder NotificationKind
  | .record [(some word, .null)] true => (ofName? word).elim (.error .mismatched) .ok
  | d => do
    match ofName? (← d.asText) with
    | some kind => return kind
    | none => .error .mismatched

end NotificationKind

/-- A notification. -/
structure Notification where
  id : Int
  /-- Who is told. -/
  recipientId : Int
  /-- Who did it. -/
  actorId : Int
  /-- The tweet that it is about. -/
  tweetId : Option Int
  kind : NotificationKind
  isRead : Bool
  createdAt : String
deriving DecidableEq, Repr

namespace Notification

/-- The record of a notification. -/
def toJson (n : Notification) : Json :=
  .record [("id", .int n.id), ("recipient_id", .int n.recipientId), ("actor_id", .int n.actorId),
    ("tweet_id", .option .int n.tweetId), ("type", .text n.kind.name), ("is_read", .bool n.isRead),
    ("created_at", .text n.createdAt)]

/-- How the record of a notification is read. -/
def shape : Shape Notification :=
  (Shape.of Notification.mk).required "id" Draft.asInt
    |>.required "recipient_id" Draft.asInt
    |>.required "actor_id" Draft.asInt
    |>.optional "tweet_id" Draft.asInt
    |>.required "type" NotificationKind.decode
    |>.required "is_read" Draft.asBool
    |>.required "created_at" Draft.asText

/-- A notification, from its record. -/
def decode : Decoder Notification := shape.decode

end Notification

end Microblog
