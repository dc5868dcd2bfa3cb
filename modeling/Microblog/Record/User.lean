import Microblog.Json.Printer
import Microblog.Json.Shape

/-!
# Accounts

A `User` is an account as it is stored.  A `SeenUser` is an account as some viewer sees it: together
with whether the viewer follows it.  Its record is the account's with one member more.
-/

set_option autoImplicit false

namespace Microblog

/-- An account. -/
structure User where
  id : Int
  username : String
  email : String
  displayName : Option String
  bio : Option String
  avatarUrl : Option String
  followersCount : Int
  followingCount : Int
  createdAt : String
  updatedAt : String
deriving DecidableEq, Repr

namespace User

/-- The members of the record of an account. -/
def members (u : User) : List (String × Json) :=
  [("id", .int u.id), ("username", .text u.username), ("email", .text u.email),
    ("display_name", .option .text u.displayName), ("bio", .option .text u.bio),
    ("avatar_url", .option .text u.avatarUrl), ("followers_count", .int u.followersCount),
    ("following_count", .int u.followingCount), ("created_at", .text u.createdAt),
    ("updated_at", .text u.updatedAt)]

/-- The record of an account. -/
def toJson (u : User) : Json := .record u.members

/-- How the record of an account is read. -/
def shape : Shape User :=
  (Shape.of User.mk).required "id" Draft.asInt
    |>.required "username" Draft.asText
    |>.required "email" Draft.asText
    |>.optional "display_name" Draft.asText
    |>.optional "bio" Draft.asText
    |>.optional "avatar_url" Draft.asText
    |>.required "followers_count" Draft.asInt
    |>.required "following_count" Draft.asInt
    |>.required "created_at" Draft.asText
    |>.required "updated_at" Draft.asText

/-- An account, from its record. -/
def decode : Decoder User := shape.decode

end User

/-- An account as a viewer sees it. -/
structure SeenUser where
  user : User
  /-- Whether the viewer follows the account. -/
  isFollowing : Bool
deriving DecidableEq, Repr

namespace SeenUser

/-- The flat record of an account as a viewer sees it. -/
def toJson (u : SeenUser) : Json :=
  .record (u.user.members ++ [("is_following", .bool u.isFollowing)])

/-- The record with the account in a member of its own. -/
def toNestedJson (u : SeenUser) : Json :=
  .record [("user", u.user.toJson), ("is_following", .bool u.isFollowing)]

/-- How the flat record is read. -/
def shape : Shape SeenUser := (User.shape.map SeenUser.mk).required "is_following" Draft.asBool

/-- An account as a viewer sees it, from its flat record. -/
def decode : Decoder SeenUser := shape.decodeJoined

/-- The account as the interface shows it. -/
def present (u : SeenUser) : Json :=
  .record [("id", .int u.user.id), ("username", .text u.user.username),
    ("email", .text u.user.email), ("displayName", .option .text u.user.displayName),
    ("bio", .option .text u.user.bio), ("avatarUrl", .option .text u.user.avatarUrl),
    ("isFollowing", .bool u.isFollowing), ("followersCount", .int u.user.followersCount),
    ("followingCount", .int u.user.followingCount)]

end SeenUser

/-- The account as the interface shows it when no viewer's follows are known. -/
def User.present (u : User) : Json := SeenUser.present ⟨u, false⟩

end Microblog
