import Microblog.Text.Decimal
import Microblog.Text.Hex

/-!
# Network addresses

An address is four bytes, written in decimal with points, or eight groups of 16 bits, written in
hexadecimal with colons.  In the long form one run of zero groups may be left out, and the last two
groups may be written as a short address.  An endpoint is an address and the number of a service
there; a long address stands in brackets then.

`Address.text` is the one written form that an address is shown in: the longest run of two or more
zero groups is left out, the first one of several.
-/

set_option autoImplicit false

namespace Microblog

open Text

/-- A network address. -/
inductive Address where
  | short (a b c d : Nat)
  /-- Eight groups. -/
  | long (groups : List Nat)
deriving DecidableEq, Repr

namespace Address

/-! ## Reading -/

/-- A number from 0 to 255 with no zeros in front. -/
def byte? (cs : List Char) : Option Nat :=
  if cs.isEmpty ∨ 3 < cs.length ∨ ¬ cs.all (·.isDigit) then none
  else if cs.head? = some '0' ∧ 1 < cs.length then none
  else some (Nat.ofDigitChars 10 cs 0) |>.filter (· ≤ 255)

/-- The four bytes of a short address. -/
def bytes? (cs : List Char) : Option (Nat × Nat × Nat × Nat) :=
  match (cs.splitOn '.').mapM byte? with
  | some [a, b, c, d] => some (a, b, c, d)
  | _ => none

/-- The value of one to four hexadecimal digits. -/
def group? (cs : List Char) : Option Nat :=
  if cs.isEmpty ∨ 4 < cs.length then none
  else cs.foldl (fun acc c ↦ acc.bind fun n ↦ (hexDigit? c).map (n * 16 + ·)) (some 0)

/-- The groups of parts between colons, the last of which may be a short address. -/
def groupsOf? : List (List Char) → Option (List Nat)
  | [] => some []
  | [part] =>
    match bytes? part with
    | some (a, b, c, d) => some [a * 256 + b, c * 256 + d]
    | none => (group? part).map ([·])
  | part :: parts => do return (← group? part) :: (← groupsOf? parts)

/-- The groups of a text in which no run of zeros is left out; nothing has no groups. -/
def groups? (cs : List Char) : Option (List Nat) :=
  if cs.isEmpty then some [] else groupsOf? (cs.splitOn ':')

/-- The text before the first double colon and the text after it. -/
def splitGap : List Char → Option (List Char × List Char)
  | ':' :: ':' :: cs => some ([], cs)
  | c :: cs => (splitGap cs).map fun (before, after) ↦ (c :: before, after)
  | [] => none

/-- The eight groups of a long address. -/
def longGroups? (cs : List Char) : Option (List Nat) :=
  match splitGap cs with
  | none => (groups? cs).filter (·.length = 8)
  | some (before, after) =>
    if before.contains '.' then none
    else
      match groups? before, groups? after with
      | some front, some back =>
        if front.length + back.length ≤ 7 then
          some (front ++ List.replicate (8 - front.length - back.length) 0 ++ back)
        else none
      | _, _ => none

/-- A number of decimal digits up to `bound`. -/
def number? (bound : Nat) (cs : List Char) : Option Nat :=
  if cs.isEmpty ∨ ¬ cs.all (·.isDigit) then none
  else some (Nat.ofDigitChars 10 cs 0) |>.filter (· ≤ bound)

/-- A long address with the number of a zone, which may follow a percent sign. -/
def zoned? (cs : List Char) : Option Address :=
  let zone := (cs.dropWhile (· ≠ '%')).drop 1
  if cs.contains '%' ∧ (number? 4294967295 zone).isNone then none
  else (longGroups? (cs.takeWhile (· ≠ '%'))).map .long

/-- The address of an endpoint. -/
def ofEndpoint? (s : String) : Option Address :=
  match s.toList with
  | '[' :: cs =>
    match cs.dropWhile (· ≠ ']') with
    | ']' :: ':' :: service => do
      let _ ← number? 65535 service
      zoned? (cs.takeWhile (· ≠ ']'))
    | _ => none
  | cs =>
    match cs.dropWhile (· ≠ ':') with
    | ':' :: service => do
      let _ ← number? 65535 service
      let (a, b, c, d) ← bytes? (cs.takeWhile (· ≠ ':'))
      return .short a b c d
    | _ => none

/-! ## Writing -/

/-- The number of zeros at the start of a list. -/
def zeros (ns : List Nat) : Nat := (ns.takeWhile (· = 0)).length

/-- The longest run of zeros, by its start and its length; the first one of several. -/
def longestRun : Nat → List Nat → Nat × Nat
  | _, [] => (0, 0)
  | start, n :: ns =>
    let here := zeros (n :: ns)
    let (s, later) := longestRun (start + 1) ns
    if later ≤ here then (start, here) else (s, later)

/-- Groups in hexadecimal, with colons between them. -/
def groupText (ns : List Nat) : List Char :=
  List.intercalate [':'] (ns.map (Nat.toDigits 16))

/-- The text of a short address. -/
def shortText (a b c d : Nat) : List Char :=
  List.intercalate ['.'] ([a, b, c, d].map Decimal.digits)

/-- The text of an address. -/
def textChars : Address → List Char
  | .short a b c d => shortText a b c d
  | .long [0, 0, 0, 0, 0, 65535, g, h] =>
    "::ffff:".toList ++ shortText (g / 256) (g % 256) (h / 256) (h % 256)
  | .long groups =>
    let (start, length) := longestRun 0 groups
    if length ≤ 1 then groupText groups
    else groupText (groups.take start) ++ [':', ':'] ++ groupText (groups.drop (start + length))

/-- The text of an address. -/
def text (a : Address) : String := .ofList a.textChars

end Address

end Microblog
