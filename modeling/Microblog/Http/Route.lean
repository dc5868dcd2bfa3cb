import Microblog.Http.Request

/-!
# Routes

A path leads to one of the routes of the interface.  A part of the path that names an account or a
tweet is kept as it was sent; it may be empty unless it is the last one.  A fixed part goes before
such a name.  Each route takes some methods, and `HEAD` wherever it takes `GET`.
-/

set_option autoImplicit false

namespace Microblog

/-- A route of the interface. -/
inductive Route where
  | health
  | me
  | profile
  | user (id : List Char)
  | followers (id : List Char)
  | following (id : List Char)
  | follow (id : List Char)
  | tweets
  | tweet (id : List Char)
  | replies (id : List Char)
  | like (id : List Char)
  | retweet (id : List Char)
  | globalFeed
  | followingFeed
  | userFeed (id : List Char)
  | searchUsers
  | searchTweets
  | searchHashtags
  | trending
  | suggestions
  | notifications
  | stream
  | unreadCount
  | markRead
deriving DecidableEq, Repr

namespace Route

/-- The route to a name at the end of a path, which has at least one character. -/
def named (route : List Char → Route) (id : List Char) : Option Route :=
  if id.isEmpty then none else some (route id)

/-- The route of the interface that leads to these parts of a path. -/
def ofParts? (parts : List String) : Option Route :=
  match parts with
  | ["users", "me"] => some me
  | ["users", "profile"] => some profile
  | ["users", id] => named user id.toList
  | ["users", id, "followers"] => some (followers id.toList)
  | ["users", id, "following"] => some (following id.toList)
  | ["users", id, "follow"] => some (follow id.toList)
  | ["tweets"] => some tweets
  | ["tweets", id] => named tweet id.toList
  | ["tweets", id, "replies"] => some (replies id.toList)
  | ["tweets", id, "like"] => some (like id.toList)
  | ["tweets", id, "retweet"] => some (retweet id.toList)
  | ["feeds", "global"] => some globalFeed
  | ["feeds", "following"] => some followingFeed
  | ["feeds", "user", id] => named userFeed id.toList
  | ["search", "users"] => some searchUsers
  | ["search", "tweets"] => some searchTweets
  | ["search", "hashtags"] => some searchHashtags
  | ["discovery", "trending"] => some trending
  | ["discovery", "users"] => some suggestions
  | ["notifications"] => some notifications
  | ["notifications", "stream"] => some stream
  | ["notifications", "unread-count"] => some unreadCount
  | ["notifications", "mark-read"] => some markRead
  | _ => none

/-- The route that a path leads to. -/
def ofPath? (path : List Char) : Option Route :=
  match (path.splitOn '/').map String.ofList with
  | ["", "healthz"] => some health
  | "" :: "api" :: "v1" :: parts => ofParts? parts
  | _ => none

/-- The methods that a route takes beside `HEAD`. -/
def methods : Route → List Method
  | profile => [.put]
  | follow _ | like _ | retweet _ => [.delete, .post]
  | tweets | markRead => [.post]
  | tweet _ => [.delete, .get]
  | _ => [.get]

/-- Whether a route takes a method. -/
def takes (r : Route) (m : Method) : Bool :=
  r.methods.contains m || (m = .head && r.methods.contains .get)

/-- The words for the methods that a route takes, in order. -/
def allowed (r : Route) : List String :=
  (r.methods.map Method.name) ++ if r.methods.contains .get then ["HEAD"] else []

end Route

end Microblog
