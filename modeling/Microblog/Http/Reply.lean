import Microblog.Json.Printer
import Microblog.Report

/-!
# Replies

A reply has a status and a body, and the methods that would have been right where the method of the
request was not.
-/

set_option autoImplicit false

namespace Microblog

/-- The body of a reply. -/
inductive Body where
  | empty
  | json (j : Json)
  | text (s : String)
  /-- Some words on what is wrong with the form of the request. -/
  | remark
  /-- A stream of the notifications for a recipient. -/
  | stream (recipient : Int)
deriving Repr

/-- A reply. -/
structure Reply where
  status : Nat
  body : Body
  /-- The methods that the route takes. -/
  allow : Option (List String) := none
deriving Repr

namespace Reply

/-- A reply with a JSON body. -/
def ok (j : Json) : Reply := ⟨200, .json j, none⟩

/-- What was asked for is done. -/
def success : Reply := ok (.record [("success", .bool true)])

/-- The request has not the right form. -/
def refused (status : Nat) : Reply := ⟨status, .remark, none⟩

/-- A problem. -/
def ofReport (r : Report) : Reply := ⟨r.kind.status, .json r.body, none⟩

/-- The client asks too often. -/
def tooMany : Reply :=
  ⟨429, .json (Report.bodyOf "TOO_MANY_REQUESTS" "rate limit exceeded"), none⟩

/-- There is nothing at this path. -/
def notFound : Reply := ⟨404, .empty, none⟩

/-- The route does not take this method. -/
def wrongMethod : Reply := ⟨405, .empty, none⟩

/-- The reply without its body. -/
def withoutBody (r : Reply) : Reply := { r with body := .empty }

end Reply

end Microblog
