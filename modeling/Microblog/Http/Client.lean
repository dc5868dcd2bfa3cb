import Microblog.Http.Header
import Microblog.Text.Blank
import Microblog.Text.Decimal

/-!
# Who is there

A request comes from a client, which is known by the first address in `x-forwarded-for`, else by
`x-real-ip`, else by the address of its connection.  It may be made for a viewer, whose number
stands in `x-viewer-id`; whatever else stands there is no viewer.
-/

set_option autoImplicit false

namespace Microblog.Headers

open Text

/-- The header that names the viewer. -/
def viewerName : String := "x-viewer-id"

/-- A text without blanks around it, if anything is left. -/
def trimmed? (s : String) : Option String := (some (trim s)).filter (· ≠ "")

/-- The text before the first comma. -/
def firstHop (s : String) : String := .ofList (s.toList.takeWhile (· ≠ ','))

/-- What the client of a request is known by; `peer` is the address of its connection. -/
def client (headers : Headers) (peer : Option String) : String :=
  match (headers.text? "x-forwarded-for").bind fun s ↦ trimmed? (firstHop s) with
  | some hop => hop
  | none =>
    match (headers.text? "x-real-ip").bind trimmed? with
    | some address => address
    | none => peer.getD "unknown"

/-- The viewer that a request is made for. -/
def viewer? (headers : Headers) : Option Int :=
  ((headers.text? viewerName).bind fun s ↦ Decimal.parseId (trim s)).filter (0 < ·)

end Microblog.Headers
