import Microblog.Double
import Microblog.Text.Decimal

/-!
# Numerals

A numeral is what stands at the start of a text as a number: blanks, a sign, digits with a point
among them, a power of ten, and blanks again.  Each of these may be missing, so that every text
begins with some numeral.  If the numeral is all of the text and has a digit, the text *is* a
number.
-/

set_option autoImplicit false

namespace Microblog.Text

/-- The number at the start of a text, in the parts in which it is written. -/
structure Numeral where
  isNegative : Bool
  /-- The digits before the point. -/
  whole : List Char
  /-- The digits behind the point, if there is one. -/
  fraction : Option (List Char)
  /-- The digits of the power of ten with its sign, if a letter announces one. -/
  power : Option (Bool × List Char)
  /-- What follows in the text. -/
  rest : List Char
deriving DecidableEq, Repr

namespace Numeral

/-! ## Reading -/

/-- A blank, around a number. -/
def isBlank (c : Char) : Bool := c = ' ' || ('\t' ≤ c && c ≤ '\r')

/-- Whether a text starts with a minus sign, and what follows its sign. -/
def sign : List Char → Bool × List Char
  | '-' :: cs => (true, cs)
  | '+' :: cs => (false, cs)
  | cs => (false, cs)

/-- The digits at the start of a text, and what follows. -/
def digits (cs : List Char) : List Char × List Char := cs.span Char.isDigit

/-- The digits behind a point, if a text starts with one, and what follows. -/
def fractionOf : List Char → Option (List Char) × List Char
  | '.' :: cs => let (digits, rest) := digits cs; (some digits, rest)
  | cs => (none, cs)

/-- The power of ten behind its letter, if a text starts with one, and what follows. -/
def powerOf : List Char → Option (Bool × List Char) × List Char
  | c :: cs =>
    if c = 'e' ∨ c = 'E' then
      let (isNegative, cs) := sign cs
      let (digits, rest) := digits cs
      (some (isNegative, digits), rest)
    else (none, c :: cs)
  | [] => (none, [])

/-- The numeral at the start of a text. -/
def ofChars (cs : List Char) : Numeral :=
  let (isNegative, cs) := sign (cs.dropWhile isBlank)
  let (whole, cs) := digits cs
  let (fraction, cs) := fractionOf cs
  let (power, cs) := powerOf cs
  ⟨isNegative, whole, fraction, power, cs.dropWhile isBlank⟩

/-! ## What it says -/

/-- Whether there is a digit before or behind the point. -/
def hasDigit (n : Numeral) : Bool := !n.whole.isEmpty || n.fraction.any (!·.isEmpty)

/-- Whether there is a power of ten with at least one digit. -/
def hasPower (n : Numeral) : Bool := n.power.any (!·.2.isEmpty)

/-- Whether the text is a number from its start to its end. -/
def isComplete (n : Numeral) : Bool :=
  n.rest.isEmpty && n.hasDigit && (n.power.isNone || n.hasPower)

/-- Whether the number is written with a point or a power of ten. -/
def isDecimal (n : Numeral) : Bool := n.hasDigit && (n.fraction.isSome || n.hasPower)

/-- The number that some digits spell. -/
def value (cs : List Char) : Nat := cs.foldl (fun n c ↦ 10 * n + (c.toNat - '0'.toNat)) 0

/-- A number with its sign. -/
def signed (isNegative : Bool) (n : Nat) : Int := if isNegative then -(n : Int) else n

/-- The integer before the point; zero if there is no digit. -/
def toInt (n : Numeral) : Int := signed n.isNegative (value n.whole)

/-- The greatest power of ten that is told from greater ones: what has it is infinite or zero. -/
def maxPower : Nat := 10000

/-- The double nearest to the number. -/
def toDouble (n : Numeral) : Double :=
  let fraction := n.fraction.getD []
  let power := n.power.elim 0 fun p ↦ signed p.1 (min (value p.2) maxPower)
  .ofDecimal (signed n.isNegative (value (n.whole ++ fraction))) (power - fraction.length)

end Numeral

end Microblog.Text
