import Microblog.Http.Address
import Microblog.Http.Cors
import Microblog.Http.Endpoint
import Microblog.Live.Session
import Microblog.Settings
import Microblog.Throttle

/-!
# The server

The server puts the application behind the interface.  A request passes three layers: questions
about other origins are answered first, then the throttle decides whether the client may ask, and
then the route and its endpoint give the reply.

A stream of notifications is a session whose frames are sent as text.
-/

set_option autoImplicit false

namespace Microblog

open Text

/-- The application behind its interface. -/
structure Server where
  settings : Settings
  social : Social
  throttle : Throttle
  /-- Whether the server was told to stop. -/
  isStopping : Bool

/-- A reply with what it says about the use from other origins. -/
structure Response where
  reply : Reply
  sharing : Sharing

namespace Server

/-- The server at its start. -/
def new (settings : Settings) : Except StoreError Server := do
  let lifetimes : Lifetimes :=
    ⟨settings.feedLifetime * Settings.second, settings.trendingLifetime * Settings.second⟩
  return {
    settings
    social := ← Social.new settings.mailboxCapacity settings.cacheEnabled lifetimes
    throttle := .new settings.throttle
    isStopping := false }

/-- Let time pass. -/
def advance (ns : Nat) (s : Server) : Server :=
  { s with social := { s.social with now := s.social.now + ns } }

/-- Do something with the application. -/
def act {α : Type} (action : Action α) (s : Server) : Except Failure α × Server :=
  let (result, social) := action.run s.social
  (result, { s with social })

/-! ## Requests -/

/-- The reply of the route that a request leads to. -/
def routed (r : Request) (s : Server) : Reply × Server :=
  match Route.ofPath? r.target.path with
  | none => (.notFound, s)
  | some route =>
    if route.takes r.method then
      let (reply, social) := Endpoint.respond r route s.social
      (reply, { s with social })
    else (.wrongMethod, s)

/-- The reply behind the throttle. -/
def throttled (r : Request) (s : Server) : Reply × Server :=
  let (allowed, throttle) := s.throttle.allow s.social.now (r.headers.client r.peer)
  let s := { s with throttle }
  if allowed then s.routed r else (.tooMany, s)

/-- A reply as it leaves the route: the reply to a method that the route does not take names those
that it takes, and the reply to `HEAD` has no body. -/
def finish (r : Request) (reply : Reply) : Reply :=
  match Route.ofPath? r.target.path with
  | none => reply
  | some route =>
    if ¬ route.takes r.method then { reply with allow := some route.allowed }
    else if r.method = .head then reply.withoutBody
    else reply

/-- Open the session behind a stream. -/
def openStream (recipient : Int) (s : Server) : Except Abort Session :=
  Session.start s.social.now recipient (s.settings.heartbeat * 1000)

/-- The response to a request.  The session behind a stream is opened at once. -/
def respond (r : Request) (s : Server) : Except Abort (Response × Server) := do
  let allowed ← Sharing.allowedOrigins s.settings.origins
  let isPreflight := r.method = .options
  let (reply, s) := if isPreflight then (⟨200, .empty, none⟩, s) else s.throttled r
  match reply.body with
  | .stream recipient => let _ ← s.openStream recipient
  | _ => pure ()
  return (⟨finish r reply, .of allowed r.headers isPreflight⟩, s)

/-! ## Streams -/

/-- The text that a stream has to send now, whether it has ended, and its session after that. -/
def readStream (session : Session) (s : Server) :
    Except Abort ((String × Bool) × Session × Server) := do
  let (ys, session, broker) ← session.drain s.social.now s.isStopping s.social.broker
  return ((Frame.textOf (Session.frames ys), ys.getLast? = some .ended), session,
    { s with social := { s.social with broker } })

/-- End a stream whose client is gone. -/
def closeStream (session : Session) (s : Server) : Server :=
  { s with social := { s.social with broker := (session.close s.social.broker).2 } }

/-! ## Start -/

/-- What keeps a server from starting. -/
inductive StartError where
  /-- What the settings name is no address. -/
  | address
deriving DecidableEq, Repr

/-- The error in words. -/
def StartError.message : StartError → String
  | .address => "Invalid web server address"

/-- Start to serve at the endpoint that the settings name. -/
def serve (settings : Settings) : Except Abort (Except StartError Unit) :=
  let endpoint := settings.webHost ++ ":" ++ Decimal.render settings.webPort
  match Address.ofEndpoint? endpoint with
  | none => .ok (.error .address)
  | some _ => do
    let _ ← Sharing.allowedOrigins settings.origins
    return .ok ()

end Server

end Microblog
