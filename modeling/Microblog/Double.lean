/-!
# Doubles

A double is a binary floating-point number with 53 significant bits.  Every finite one is a multiple
of the least positive one, which is the unit here, so a double is kept as that multiple.  An
operation is carried out exactly, on integers, and its result is rounded to the nearest double, of
two equally near ones to the even one; what is too large becomes infinite.

`shortest` gives the decimal with the fewest digits that is rounded to a double, and `rounded` the
decimal with a number of digits that is nearest to it.
-/

set_option autoImplicit false

namespace Microblog

/-- A double, as a multiple of the least positive one. -/
structure Double where
  units : Int
deriving DecidableEq, Repr

namespace Double

/-! ## Rounding -/

/-- The number of units in the number one. -/
def one : Nat := .pow 2 1074

/-- The number of units that stands for infinity: the least one that no finite double reaches. -/
def infinite : Nat := .pow 2 2098

/-- The integer nearest to `n / d`, of two equally near ones the even one. -/
def roundDiv (n d : Nat) : Nat :=
  if 2 * (n % d) < d ∨ (2 * (n % d) = d ∧ n / d % 2 = 0) then n / d else n / d + 1

/-- The distance between the doubles around `n` units: their 53 bits begin at the first of `n`. -/
def gap (n : Nat) : Nat := .pow 2 (n.log2 + 1 - 53)

/-- The units of the double that is nearest to `n / d` units. -/
def roundUnits (n d : Nat) : Nat :=
  let gap := gap (n / d)
  min (roundDiv n (d * gap) * gap) infinite

/-- The double nearest to `n / d` units. -/
def ofUnits (n : Int) (d : Nat) : Double := ⟨n.sign * roundUnits n.natAbs d⟩

/-! ## Operations -/

/-- The double nearest to an integer. -/
def ofInt (n : Int) : Double := ofUnits (n * one) 1

/-- The double nearest to the sum of two. -/
def add (x y : Double) : Double := ofUnits (x.units + y.units) 1

/-- The double nearest to the product of two. -/
def mul (x y : Double) : Double := ofUnits (x.units * y.units) one

/-- The double nearest to the quotient of two, the second of which is above zero. -/
def div (x y : Double) : Double := ofUnits (x.units * one) y.units.natAbs

/-- The double nearest to `digits · 10 ^ exponent`. -/
def ofDecimal (digits : Int) (exponent : Int) : Double :=
  ofUnits (digits * (Nat.pow 10 exponent.toNat * one : Nat)) (.pow 10 (-exponent).toNat)

/-- Whether a double is infinite. -/
def isInfinite (x : Double) : Bool := infinite ≤ x.units.natAbs

/-- The integer that a double is, if it is one. -/
def toInt? (x : Double) : Option Int :=
  if x.units % one = 0 then some (x.units / one) else none

/-! ## Decimals -/

/-- The one of the decimals `digits · 10 ^ exponent` and `(digits + 1) · 10 ^ exponent` that is
rounded to `x`; of both the nearer one, and of two equally near ones the even one. -/
def neighbour? (x : Double) (digits : Nat) (exponent : Int) : Option Nat :=
  let below := ofDecimal digits exponent = x
  let above := ofDecimal (digits + 1) exponent = x
  if below ∧ above then
    let middle := (2 * digits + 1) * (Nat.pow 10 exponent.toNat * one)
    let here := 2 * x.units.natAbs * .pow 10 (-exponent).toNat
    some (if here < middle ∨ (here = middle ∧ digits % 2 = 0) then digits else digits + 1)
  else if below then some digits
  else if above then some (digits + 1)
  else none

/-- The decimal with the greatest exponent, from `exponent` on down, that is rounded to `x`; `fuel`
bounds the number of exponents to try. -/
def search (x : Double) : Nat → Int → Nat × Int
  | 0, exponent => (0, exponent)
  | fuel + 1, exponent =>
    let floor := x.units.natAbs * Nat.pow 10 (-exponent).toNat / (.pow 10 exponent.toNat * one)
    match neighbour? x floor exponent with
    | some digits => (digits, exponent)
    | none => search x fuel (exponent - 1)

/-- The decimal with the fewest digits that is rounded to the finite double `x`, which is not below
zero, as digits and exponent.  The search begins above the first digit of `x`, and seventeen digits
are always enough. -/
def shortest (x : Double) : Nat × Int :=
  if x.units = 0 then (0, 0)
  else search x 24 (((x.units.natAbs.log2 : Int) - 1074) * 3 / 10 + 2)

/-! ## Rounded decimals -/

/-- A power of ten that brings the first digits of every double before the point. -/
def shift : Nat := 400

/-- Take zeros off the end of some digits; `fuel` bounds their number. -/
def trimmed : Nat → Nat → Int → Nat × Int
  | 0, digits, exponent => (digits, exponent)
  | fuel + 1, digits, exponent =>
    if digits % 10 = 0 then trimmed fuel (digits / 10) (exponent + 1) else (digits, exponent)

/-- The magnitude of `x` in at most `count` digits, a half rounded up, as digits and exponent.  The
digits do not end in a zero, unless `x` is zero. -/
def rounded (count : Nat) (x : Double) : Nat × Int :=
  let whole := x.units.natAbs * .pow 10 shift / one
  if whole = 0 then (0, 0)
  else
    let size := (Nat.toDigits 10 whole).length
    trimmed count ((whole / .pow 10 (size - count - 1) + 5) / 10) ((size : Int) - count - shift)

end Double

end Microblog
