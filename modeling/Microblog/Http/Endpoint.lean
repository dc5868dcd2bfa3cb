import Microblog.Http.Client
import Microblog.Http.MediaType
import Microblog.Http.Reply
import Microblog.Http.Route
import Microblog.Social.Accounts
import Microblog.Social.Inbox
import Microblog.Social.Posts
import Microblog.Social.Search
import Microblog.Text.Form

/-!
# Endpoints

What the interface answers on each route.  A request is read in a fixed order: first the viewer,
then the name in the path, then the query, and the body last.  The first part that is wrong decides
the reply.
-/

set_option autoImplicit false

namespace Microblog

open Text

/-- What answers a request: it reads the application and may change it, and ends with a reply. -/
abbrev Endpoint (α : Type) := ExceptT Reply (StateM Social) α

namespace Endpoint

/-! ## Reading a request -/

/-- Answer at once. -/
def refuse {α : Type} (r : Reply) : Endpoint α := throw r

/-- Do something with the application; a failure is told. -/
def perform {α : Type} (action : Action α) : Endpoint α := do
  let (result, s) := action.run (← get)
  set s
  match result with
  | .ok a => return a
  | .error f => refuse (.ofReport f.report)

/-- The viewer, whom the request has to be made for. -/
def viewer (r : Request) : Endpoint Int :=
  match r.headers.viewer? with
  | some id => pure id
  | none => refuse (.ofReport Failure.anonymous.report)

/-- The number that a part of the path spells. -/
def number (part : List Char) : Endpoint Int :=
  match (Form.segment? part).bind Decimal.parseId with
  | some n => pure n
  | none => refuse (.refused 400)

/-- The value of a name in a query, which may stand there once. -/
def single (r : Request) (name : String) : Endpoint (Option String) :=
  match (Form.pairs r.target.query).filter (·.1 = name) with
  | [] => pure none
  | [(_, value)] => pure (some value)
  | _ => refuse (.refused 400)

/-- The integer of a name in a query. -/
def integer (r : Request) (name : String) : Endpoint (Option Int) := do
  match ← single r name with
  | none => return none
  | some s =>
    match Decimal.parseId s with
    | some n => return some n
    | none => refuse (.refused 400)

/-- The page that a query asks for. -/
def page (r : Request) : Endpoint Page := do
  let page ← integer r "page"
  let size ← integer r "size"
  match Page.request page size with
  | .ok p => return p
  | .error refusal => refuse (.ofReport (Failure.page refusal).report)

/-- The text and the page that a search asks for. -/
def search (r : Request) : Endpoint (String × Page) := do
  let q ← single r "q"
  return (q.getD "", ← page r)

/-- The text and the number of results that a query asks for. -/
def limited (r : Request) (default : Int) : Endpoint (String × Int) := do
  let q ← single r "q"
  return (q.getD "", clampLimit (← integer r "limit") default)

/-- The greatest number of bytes of a body. -/
def maxBody : Nat := 2097152

/-- The record in the body of a request. -/
def body {α : Type} (r : Request) (shape : Shape α) : Endpoint α :=
  if ¬ (r.headers.text? "content-type").any MediaType.isJson then refuse (.refused 415)
  else if maxBody < r.body.utf8ByteSize then refuse (.refused 413)
  else
    match shape.decode (Draft.read r.body.toList).1 with
    | .ok a => pure a
    | .error .malformed => refuse (.refused 400)
    | .error .mismatched => refuse (.refused 422)

/-- The text and the parent of a new tweet. -/
def tweetShape : Shape (Option String × Option Int) :=
  (Shape.of Prod.mk).optional "content" Draft.asText |>.optional "parentId" Draft.asInt

/-- The display name and the description of a profile. -/
def profileShape : Shape (Option String × Option String) :=
  (Shape.of Prod.mk).optional "displayName" Draft.asText |>.optional "bio" Draft.asText

/-! ## Answering -/

/-- The items of a listing. -/
def listed {α : Type} (present : α → Json) (items : List α) : Reply :=
  .ok (.list (items.map present))

/-- The number of trending hashtags when none is asked for. -/
def trendingLimit : Int := 10

/-- The number of hashtags found when none is asked for. -/
def tagLimit : Int := 5

/-- Whether a request takes back what the other method of its route does. -/
def isUndoing (r : Request) : Bool := r.method = .delete

/-- The reply to a request on a route that takes its method. -/
def answer (r : Request) : Route → Endpoint Reply
  | .health => return ⟨200, .text "ok", none⟩
  | .me => do
    let v ← viewer r
    return .ok (← perform (Action.getUser v (some v))).present
  | .profile => do
    let v ← viewer r
    let (displayName, bio) ← body r profileShape
    return .ok (← perform (Action.updateProfile v displayName bio)).present
  | .user id => do
    return .ok (← perform (Action.getUser (← number id) r.headers.viewer?)).present
  | .followers id => do
    let id ← number id
    let page ← page r
    return listed SeenUser.present (← perform (Action.followers id page r.headers.viewer?))
  | .following id => do
    let id ← number id
    let page ← page r
    return listed SeenUser.present (← perform (Action.following id page r.headers.viewer?))
  | .follow id => do
    let v ← viewer r
    let id ← number id
    if isUndoing r then perform (Action.unfollow v id)
    else let _ ← perform (Action.follow v id)
    return .success
  | .tweets => do
    let v ← viewer r
    let (content, parent) ← body r tweetShape
    return ⟨201, .json (← perform (Action.createTweet v content parent)).present, none⟩
  | .tweet id => do
    if isUndoing r then
      let v ← viewer r
      perform (Action.deleteTweet v (← number id))
      return .success
    else return .ok (← perform (Action.getTweet (← number id) r.headers.viewer?)).present
  | .replies id => do
    let id ← number id
    let page ← page r
    return listed Item.present (← perform (Action.replies id page r.headers.viewer?))
  | .like id => do
    let v ← viewer r
    let id ← number id
    perform (if isUndoing r then Action.unlike v id else Action.like v id)
    return .success
  | .retweet id => do
    let v ← viewer r
    let id ← number id
    if isUndoing r then
      perform (Action.undoRetweet v id)
      return .success
    else return .ok (← perform (Action.retweet v id)).present
  | .globalFeed => do
    let page ← page r
    return listed Item.present (← perform (Action.globalFeed page r.headers.viewer?))
  | .followingFeed => do
    let v ← viewer r
    let page ← page r
    return listed Item.present (← perform (Action.followingFeed v page))
  | .userFeed id => do
    let id ← number id
    let page ← page r
    return listed Item.present (← perform (Action.userFeed id page r.headers.viewer?))
  | .searchUsers => do
    let (q, page) ← search r
    return listed SeenUser.present (← perform (Action.searchUsers q page r.headers.viewer?))
  | .searchTweets => do
    let (q, page) ← search r
    return listed Item.present (← perform (Action.searchTweets q page r.headers.viewer?))
  | .searchHashtags => do
    let (q, limit) ← limited r tagLimit
    return listed Hashtag.toJson (← perform (Action.searchTags q limit))
  | .trending => do
    let (_, limit) ← limited r trendingLimit
    return listed Hashtag.toJson (← perform (Action.trending limit))
  | .suggestions => do
    let page ← page r
    return listed SeenUser.present (← perform (Action.suggested page r.headers.viewer?))
  | .notifications => do
    let v ← viewer r
    let page ← page r
    return listed Notification.toJson (← perform (Action.notifications v page))
  | .stream => return ⟨200, .stream (← viewer r), none⟩
  | .unreadCount => do return .ok (.int (← perform (Action.unreadCount (← viewer r))))
  | .markRead => do
    let _ ← perform (Action.markRead (← viewer r))
    return .success

/-- The reply to a request on a route that takes its method, and the application after it. -/
def respond (r : Request) (route : Route) (s : Social) : Reply × Social :=
  match (answer r route).run s with
  | (.ok reply, s) => (reply, s)
  | (.error reply, s) => (reply, s)

end Endpoint

end Microblog
