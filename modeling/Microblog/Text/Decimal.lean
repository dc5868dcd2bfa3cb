/-!
# Integers in decimal

`Decimal.render` writes an integer with its fewest digits and a sign only when it is negative.
`Decimal.parse` reads one that has to lie between two bounds: an optional plus sign, a minus sign
where negative numbers are allowed, then digits of which the first may be zeros.  It stops at the
first fault, so that a number that has grown too large is reported even when something that is no
digit follows.
-/

set_option autoImplicit false

namespace Microblog.Text.Decimal

/-- Why a text is no integer between the bounds. -/
inductive Fault where
  /-- There is no character at all. -/
  | empty
  /-- A character is no digit, or a sign stands alone. -/
  | invalidDigit
  /-- The number is above the upper bound. -/
  | tooLarge
  /-- The number is below the lower bound. -/
  | tooSmall
deriving DecidableEq, Repr

/-- The fault in words. -/
def Fault.message : Fault → String
  | .empty => "cannot parse integer from empty string"
  | .invalidDigit => "invalid digit found in string"
  | .tooLarge => "number too large to fit in target type"
  | .tooSmall => "number too small to fit in target type"

/-- The decimal digits of `n` as characters. -/
def digits (n : Nat) : List Char := Nat.toDigits 10 n

/-- `n` in decimal, as characters. -/
def renderChars : Int → List Char
  | .ofNat n => digits n
  | .negSucc n => '-' :: digits (n + 1)

/-- `n` in decimal. -/
def render (n : Int) : String := .ofList (renderChars n)

/-- The value of a digit. -/
def digit? (c : Char) : Option Nat := if c.isDigit then some (c.toNat - '0'.toNat) else none

/-- Continue the magnitude `acc` with the digits `cs`, as long as it stays within `bound`. -/
def magnitude (bound : Nat) (tooFar : Fault) (acc : Nat) : List Char → Except Fault Nat
  | [] => .ok acc
  | c :: cs =>
    match digit? c with
    | none => .error .invalidDigit
    | some d =>
      if acc * 10 + d ≤ bound then magnitude bound tooFar (acc * 10 + d) cs else .error tooFar

/-- The digits of an integer, of which there has to be one. -/
def unsigned (bound : Nat) (tooFar : Fault) : List Char → Except Fault Nat
  | [] => .error .invalidDigit
  | c :: cs => magnitude bound tooFar 0 (c :: cs)

/-- The integer that `cs` spells, when it lies from `-below` to `above`.  A minus sign is a sign
only where some negative number is allowed. -/
def parseChars (below above : Nat) : List Char → Except Fault Int
  | [] => .error .empty
  | '+' :: cs => (unsigned above .tooLarge cs).map Int.ofNat
  | '-' :: cs =>
    if below = 0 then .error .invalidDigit
    else (unsigned below .tooSmall cs).map fun n ↦ -(n : Int)
  | cs => (unsigned above .tooLarge cs).map Int.ofNat

/-- The integer that `s` spells, when it lies from `-below` to `above`. -/
def parse (below above : Nat) (s : String) : Except Fault Int := parseChars below above s.toList

/-- The least integer of 64 bits. -/
def least : Int := -9223372036854775808

/-- The greatest integer of 64 bits. -/
def greatest : Int := 9223372036854775807

/-- Whether `n` is an integer of 64 bits. -/
def Fits (n : Int) : Prop := least ≤ n ∧ n ≤ greatest

instance (n : Int) : Decidable (Fits n) := inferInstanceAs (Decidable (_ ∧ _))

/-- The integer of 64 bits that `s` spells. -/
def parseId (s : String) : Option Int := (parse 9223372036854775808 9223372036854775807 s).toOption

end Microblog.Text.Decimal
