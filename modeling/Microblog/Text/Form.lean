import Microblog.Text.Hex
import Microblog.Text.Utf8

/-!
# Percent-encoding and form-encoded pairs

In a path, `%` and two hexadecimal digits stand for a byte.  A query is a list of `name=value` pairs
joined by `&`, in which a plus sign stands for a blank as well.  A `%` that no two digits follow
stands for itself.
-/

set_option autoImplicit false

namespace Microblog.Text.Form

/-- The byte that two hexadecimal digits stand for. -/
def hexByte? (a b : Char) : Option UInt8 :=
  match hexDigit? a, hexDigit? b with
  | some x, some y => some (UInt8.ofNat (x * 16 + y))
  | _, _ => none

/-- The bytes of a percent-encoded text. -/
def unescape : List Char → List UInt8
  | [] => []
  | '%' :: a :: b :: cs =>
    match hexByte? a b with
    | some byte => byte :: unescape cs
    | none => String.utf8EncodeChar '%' ++ unescape (a :: b :: cs)
  | c :: cs => String.utf8EncodeChar c ++ unescape cs

/-- The text of a percent-encoded path segment, if its bytes are UTF-8. -/
def segment? (cs : List Char) : Option String := (Utf8.decode (unescape cs)).map .ofList

/-- The text of one side of a pair. -/
def part (cs : List Char) : String :=
  .ofList (Utf8.decodeLossy (unescape (cs.map fun c ↦ if c = '+' then ' ' else c)))

/-- One pair: the name ends at the first `=`, and a pair without one has an empty value. -/
def pair (cs : List Char) : String × String :=
  (part (cs.takeWhile (· ≠ '=')), part ((cs.dropWhile (· ≠ '=')).drop 1))

/-- The pairs of a form-encoded text, in order.  Nothing between two `&` is no pair. -/
def pairs (cs : List Char) : List (String × String) :=
  ((cs.splitOn '&').filter (· ≠ [])).map pair

end Microblog.Text.Form
