import Microblog.Json.Basic
import Microblog.Text.Decimal

/-!
# JSON text

`Json.print` writes a value in the compact form, with no blanks.  In a text the quote, the backslash
and the control characters are escaped and all else is written as it is, so the written form of any
value is a single line.
-/

set_option autoImplicit false

namespace Microblog

open Text

/-- One character inside a quoted text. -/
def escapeChar (c : Char) : List Char :=
  if c = '"' then ['\\', '"']
  else if c = '\\' then ['\\', '\\']
  else if c = '\n' then ['\\', 'n']
  else if c = '\r' then ['\\', 'r']
  else if c = '\t' then ['\\', 't']
  else if c = '\x08' then ['\\', 'b']
  else if c = '\x0c' then ['\\', 'f']
  else if c.toNat < 0x20 then
    ['\\', 'u', '0', '0', Nat.digitChar (c.toNat / 16), Nat.digitChar (c.toNat % 16)]
  else [c]

/-- A quoted text. -/
def quote (s : String) : List Char := '"' :: s.toList.flatMap escapeChar ++ ['"']

/-- The decimal `digits · 10 ^ exponent`, where `digits` are not those of zero.  A point stands
among them, or in a row of zeros before or behind them, as long as few zeros are needed; else it
follows the first digit, and the power of ten is written out. -/
def printDecimal (digits : List Char) (exponent : Int) : List Char :=
  let point : Int := digits.length + exponent
  if 0 ≤ exponent ∧ point ≤ 16 then digits ++ List.replicate exponent.toNat '0' ++ ['.', '0']
  else if 0 < point ∧ point ≤ 16 then
    digits.take point.toNat ++ '.' :: digits.drop point.toNat
  else if -5 < point ∧ point ≤ 0 then
    '0' :: '.' :: List.replicate (-point).toNat '0' ++ digits
  else
    let fraction := if digits.length = 1 then [] else '.' :: digits.drop 1
    digits.take 1 ++ fraction ++ 'e' :: Decimal.renderChars (point - 1)

/-- A number. -/
def Number.print : Number → List Char
  | .int n => Decimal.renderChars n
  | .decimal negative digits exponent =>
    (if negative then ['-'] else []) ++
      if digits = 0 then ['0', '.', '0'] else printDecimal (Decimal.digits digits) exponent

mutual

/-- The compact text of a value. -/
def Json.print : Json → List Char
  | .null => "null".toList
  | .bool true => "true".toList
  | .bool false => "false".toList
  | .number n => n.print
  | .text s => quote s
  | .list [] => ['[', ']']
  | .list (item :: items) => '[' :: item.print ++ Json.printItems items
  | .record [] => ['\x7b', '\x7d']
  | .record ((name, value) :: members) =>
    '\x7b' :: quote name ++ ':' :: value.print ++ Json.printMembers members

/-- The items after the first one, and the end of the list. -/
def Json.printItems : List Json → List Char
  | [] => [']']
  | item :: items => ',' :: item.print ++ Json.printItems items

/-- The members after the first one, and the end of the record. -/
def Json.printMembers : List (String × Json) → List Char
  | [] => ['\x7d']
  | (name, value) :: members =>
    ',' :: quote name ++ ':' :: value.print ++ Json.printMembers members

end

/-- The compact text of a value. -/
def Json.render (j : Json) : String := .ofList j.print

end Microblog
