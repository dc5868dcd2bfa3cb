import Microblog.Json.Basic
import Microblog.Store.Error
import Microblog.Text.Numeral

/-!
# Cells

A cell is a value in a column of the store: an integer of 64 bits, a double or a text.  A column for
integers turns what is put into it into an integer where that loses nothing, and keeps it as it is
where it would; such a cell takes part in sums and orders, but it cannot be read.

A sum that leaves the range of 64 bits becomes a double.
-/

set_option autoImplicit false

namespace Microblog

open Text

/-- A value in a column. -/
inductive Cell where
  | int (n : Int)
  | real (x : Double)
  | text (s : String)
deriving DecidableEq, Repr, Inhabited

namespace Cell

/-! ## Putting values into columns -/

/-- A number, as an integer if it is one between the least and the greatest of 64 bits. -/
def ofDouble (x : Double) : Cell :=
  match x.toInt? with
  | some n => if Decimal.least < n ∧ n < Decimal.greatest then int n else real x
  | none => real x

/-- The number that a text is, and else the text. -/
def ofText (s : String) : Cell :=
  let n := Numeral.ofChars s.toList
  if ¬ n.isComplete then text s
  else if ¬ n.isDecimal ∧ Decimal.Fits n.toInt then int n.toInt
  else ofDouble n.toDouble

/-- A value in a column for integers. -/
def toIntegral : Cell → Cell
  | int n => int n
  | real x => ofDouble x
  | text s => ofText s

/-- A double in at most fifteen digits, at least one of which stands behind the point.  Where more
zeros than four would be needed, the power of ten is written out. -/
def showDouble (x : Double) : List Char :=
  let (digits, exponent) := x.rounded 15
  let digits := Decimal.digits digits
  let point : Int := digits.length + exponent
  let number :=
    if point < -3 ∨ 15 < point then
      let power := Decimal.digits (point - 1).natAbs
      digits.take 1 ++ '.' :: (if digits.length = 1 then ['0'] else digits.drop 1) ++
        'e' :: (if point < 1 then '-' else '+') ::
          List.replicate (2 - power.length) '0' ++ power
    else if point ≤ 0 then '0' :: '.' :: List.replicate (-point).toNat '0' ++ digits
    else if exponent < 0 then digits.take point.toNat ++ '.' :: digits.drop point.toNat
    else digits ++ List.replicate exponent.toNat '0' ++ ['.', '0']
  if x.units < 0 then '-' :: number else number

/-- A value in a column for texts. -/
def toText : Cell → String
  | int n => Decimal.render n
  | real x => .ofList (showDouble x)
  | text s => s

/-! ## Numbers -/

/-- The sum of two integers. -/
def sum (m n : Int) : Cell :=
  if Decimal.Fits (m + n) then int (m + n) else ofDouble (.ofInt (m + n))

/-- The sum of a cell and an integer; of a text the number at its start counts. -/
def add (k : Int) : Cell → Cell
  | int n => sum n k
  | real x => ofDouble (x.add (.ofInt k))
  | text s =>
    let n := Numeral.ofChars s.toList
    if ¬ n.isDecimal ∧ Decimal.Fits n.toInt then sum n.toInt k
    else ofDouble (n.toDouble.add (.ofInt k))

theorem add_int {k n : Int} (h : Decimal.Fits (n + k)) : (int n).add k = int (n + k) := if_pos h

/-- A counter after one more of what it counts is there. -/
def increment (c : Cell) : Cell := c.add 1

/-- Whether a cell is a number below zero. -/
def isNegative : Cell → Bool
  | int n => n < 0
  | real x => x.units < 0
  | text _ => false

/-- A counter after one of what it counts is gone: one less, but not below zero. -/
def decrement (c : Cell) : Cell := if (c.add (-1)).isNegative then int 0 else c.add (-1)

theorem decrement_int {n : Int} (h : Decimal.Fits (n - 1)) :
    (int n).decrement = int (max (n - 1) 0) := by
  have hadd : (int n).add (-1) = int (n - 1) := add_int h
  rw [decrement, hadd]
  by_cases hn : n - 1 < 0
  · rw [if_pos (by simpa [isNegative] using hn), Int.max_eq_right (by omega)]
  · rw [if_neg (by simpa [isNegative] using hn), Int.max_eq_left (by omega)]

/-! ## Order -/

/-- Numbers are ordered by size, texts by their characters, and numbers come before texts. -/
def le : Cell → Cell → Bool
  | int m, int n => m ≤ n
  | int m, real y => m * Double.one ≤ y.units
  | real x, int n => x.units ≤ n * Double.one
  | real x, real y => x.units ≤ y.units
  | text s, text t => !(t < s)
  | text _, _ => false
  | _, text _ => true

/-! ## Reading -/

/-- The integer in a column, which can be read only if it is one. -/
def read (column : String) : Cell → Except Cause Int
  | int n => .ok n
  | _ => .error (.column column)

/-- A cell as a JSON value; a double has none. -/
def toJson : Cell → Json
  | int n => .int n
  | real _ => .null
  | text s => .text s

end Cell

end Microblog
