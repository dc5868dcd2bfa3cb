import Microblog.Http.Header
import Microblog.Live.Broker

/-!
# Requests from other origins

A browser sends the origin of the page that makes a request.  If it is one of the origins that are
allowed, the reply says so; every reply says that credentials may be sent.  A browser may ask
beforehand, by the method `OPTIONS`, which methods and headers it may use.
-/

set_option autoImplicit false

namespace Microblog

/-- What a reply says about the use from other origins. -/
structure Sharing where
  origin : Option String
  /-- Whether the methods and headers that may be used are told. -/
  isPreflight : Bool
deriving DecidableEq, Repr

namespace Sharing

/-- The methods that may be used. -/
def methods : List String := ["DELETE", "GET", "OPTIONS", "PATCH", "POST", "PUT"]

/-- The headers that may be used. -/
def headers : List String := ["authorization", "content-type", "x-viewer-id"]

/-- The origins of a list that can be sent in a header.  A list cannot stand for all origins. -/
def allowedOrigins (origins : List String) : Except Abort (List String) :=
  let valid := origins.filter Headers.isValue
  if valid.contains "*" then .error .anyOrigin else .ok valid

/-- What the reply to a request says. -/
def of (allowed : List String) (request : Headers) (isPreflight : Bool) : Sharing where
  origin := (request.get? "origin").filter allowed.contains
  isPreflight

end Sharing

end Microblog
