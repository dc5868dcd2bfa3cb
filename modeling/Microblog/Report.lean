import Microblog.Json.Printer

/-!
# Reports

A `Report` tells a client why a request failed.  It has a kind, which decides the status and the
code of the response, and a message.  What is internal is not told: the client then learns no more
than that the server failed.
-/

set_option autoImplicit false

namespace Microblog

/-- What kind of problem is reported. -/
inductive ReportKind where
  | badRequest
  | unauthorized
  | forbidden
  | notFound
  | conflict
  | internal
deriving DecidableEq, Repr

namespace ReportKind

/-- The status of the response. -/
def status : ReportKind → Nat
  | badRequest => 400
  | unauthorized => 401
  | forbidden => 403
  | notFound => 404
  | conflict => 409
  | internal => 500

/-- The code of the response. -/
def code : ReportKind → String
  | badRequest => "BAD_REQUEST"
  | unauthorized => "UNAUTHORIZED"
  | forbidden => "FORBIDDEN"
  | notFound => "NOT_FOUND"
  | conflict => "CONFLICT"
  | internal => "INTERNAL_ERROR"

end ReportKind

/-- A problem, as it is reported. -/
structure Report where
  kind : ReportKind
  message : String
deriving DecidableEq, Repr

namespace Report

/-- An internal problem: of a message and the contexts around it, the outermost is what it is
known by. -/
def internal (message : String) (contexts : List String) : Report :=
  ⟨.internal, contexts.getLastD message⟩

/-- The message that a client gets. -/
def shown (r : Report) : String :=
  match r.kind with
  | .internal => "internal server error"
  | _ => r.message

/-- A response body with a code and a message. -/
def bodyOf (code message : String) : Json :=
  .record [("code", .text code), ("message", .text message)]

/-- The body of the response. -/
def body (r : Report) : Json := bodyOf r.kind.code r.shown

end Report

end Microblog
