import Microblog.Double
import Microblog.Json.Basic
import Microblog.Text.Decimal
import Microblog.Text.Hex

/-!
# Reading JSON text

`Draft.read` reads the value at the start of a text.  It never fails: a `Draft` is what can be made
out of the text, up to the place where it stops being JSON.  There it has a `broken` leaf, and every
list and record around it is marked as not closed.  What a reader asks of a value therefore comes
before what is wrong further on, just as if the text were read piece by piece.

Two things are looked at only when the value is asked for: a quoted text may hold escapes that stand
for no character (`text none`), and a number may be too large for a double (`number none`).
-/

set_option autoImplicit false

namespace Microblog

open Text

/-- A JSON value as far as it could be read. -/
inductive Draft where
  | null
  | bool (b : Bool)
  /-- A number; `none` if it is too large. -/
  | number (n : Option Number)
  /-- A quoted text; `none` if its escapes stand for no text. -/
  | text (s : Option String)
  | list (items : List Draft) (closed : Bool)
  | record (members : List (Option String × Draft)) (closed : Bool)
  /-- Here the text is not JSON. -/
  | broken
deriving Repr, Inhabited

/-! ## Numbers

A number without point and exponent is an integer if it is one of 64 bits.  Any other number is read
as a double, in steps each of which is rounded: first the digits that 64 bits can hold, then the
power of ten. -/

namespace Number

/-- The greatest power of ten that a double is scaled by at once. -/
def maxPower : Nat := 308

/-- The double nearest to a power of ten. -/
def tenTo (n : Nat) : Double := .ofInt (Nat.pow 10 n : Nat)

/-- A double scaled by a power of ten; none if it becomes too large. -/
def scale? (x : Double) (exponent : Int) : Option Double :=
  if exponent < -maxPower then
    if x.units = 0 then some x else scale? (x.div (tenTo maxPower)) (exponent + maxPower)
  else if exponent < 0 then some (x.div (tenTo (-exponent).toNat))
  else if exponent ≤ maxPower then
    let y := x.mul (tenTo exponent.toNat)
    if y.isInfinite then none else some y
  else if x.units = 0 then some x
  else none
termination_by (-exponent).toNat
decreasing_by simp only [maxPower] at *; omega

/-- The shortest decimal of a double that is not below zero. -/
def ofDouble (negative : Bool) (x : Double) : Number :=
  .decimal negative x.shortest.1 x.shortest.2

/-- The number `± n · 10 ^ exponent`, read as a double. -/
def scaled? (negative : Bool) (n : Nat) (exponent : Int) : Option Number :=
  (scale? (.ofInt n) exponent).map (ofDouble negative)

/-- The number `± n`, where `n` has 64 bits.  It is an integer if it is one of 64 bits, with or
without a sign, and not the zero with a minus sign. -/
def integral (negative : Bool) (n : Nat) : Number :=
  if negative then
    if n = 0 ∨ .pow 2 63 < n then ofDouble true (.ofInt n) else .int (-(n : Int))
  else .int n

end Number

/-- The digits at the start of `cs`, and the rest. -/
def spanDigits (cs : List Char) : List Char × List Char :=
  (cs.takeWhile (·.isDigit), cs.dropWhile (·.isDigit))

/-- The number that digits spell. -/
def ofDigits (ds : List Char) : Nat := Nat.ofDigitChars 10 ds 0

/-- `n` with further digits behind it, up to the first one that 64 bits cannot hold, and the number
of digits from there on. -/
def takeDigits (n : Nat) : List Char → Nat × Nat
  | [] => (n, 0)
  | d :: ds =>
    let m := Nat.ofDigitChars 10 [d] n
    if m < .pow 2 64 then takeDigits m ds else (n, ds.length + 1)

/-- The exponent after `e`. -/
def readExponent (cs : List Char) : Option (Int × List Char) :=
  let (negative, cs) : Bool × List Char :=
    match cs with
    | '+' :: cs => (false, cs)
    | '-' :: cs => (true, cs)
    | cs => (false, cs)
  match spanDigits cs with
  | ([], _) => none
  | (ds, rest) => some (if negative then -(ofDigits ds : Int) else ofDigits ds, rest)

/-- The number of the digits `whole` and `fraction`, with an exponent if one follows. -/
def readScaled (negative : Bool) (whole fraction : List Char) (cs : List Char) :
    Option (Option Number × List Char) :=
  let (n, left) := takeDigits 0 whole
  let (n, unused) := takeDigits n fraction
  let shift : Int := left - (fraction.length - unused : Nat)
  let scaled (cs : List Char) : Option (Option Number × List Char) :=
    (readExponent cs).map fun (e, rest) ↦ (Number.scaled? negative n (shift + e), rest)
  match cs with
  | 'e' :: cs => scaled cs
  | 'E' :: cs => scaled cs
  | cs => some (Number.scaled? negative n shift, cs)

/-- The number of the digits `whole`, without point and exponent. -/
def readWhole (negative : Bool) (whole : List Char) : Option Number :=
  match takeDigits 0 whole with
  | (n, 0) => some (.integral negative n)
  | (n, left) => Number.scaled? negative n left

/-- What follows the digits before the point. -/
def readFraction (negative : Bool) (whole : List Char) :
    List Char → Option (Option Number × List Char)
  | '.' :: cs =>
    match spanDigits cs with
    | ([], _) => none
    | (fraction, rest) => readScaled negative whole fraction rest
  | 'e' :: cs => readScaled negative whole [] ('e' :: cs)
  | 'E' :: cs => readScaled negative whole [] ('E' :: cs)
  | cs => some (readWhole negative whole, cs)

/-- The number at the start of `cs`, after its sign.  It starts with a zero only if that is its
only digit before the point. -/
def readUnsigned (negative : Bool) (cs : List Char) : Option (Option Number × List Char) :=
  match spanDigits cs with
  | ([], _) => none
  | ('0' :: _ :: _, _) => none
  | (whole, rest) => readFraction negative whole rest

/-- The number at the start of `cs`. -/
def readNumber : List Char → Option (Option Number × List Char)
  | '-' :: cs => readUnsigned true cs
  | cs => readUnsigned false cs

/-! ## Quoted text -/

/-- A piece of a quoted text: a character, or the unit of a `\u` escape. -/
inductive Piece where
  | char (c : Char)
  | unit (n : Nat)
deriving DecidableEq, Repr

/-- The unit that four hexadecimal digits spell. -/
def unit? (a b c d : Char) : Option Nat := do
  return (((← hexDigit? a) * 16 + (← hexDigit? b)) * 16 + (← hexDigit? c)) * 16 + (← hexDigit? d)

/-- The character of a one-letter escape. -/
def shortEscape? : Char → Option Char
  | '"' => some '"'
  | '\\' => some '\\'
  | '/' => some '/'
  | 'b' => some '\x08'
  | 'f' => some '\x0c'
  | 'n' => some '\n'
  | 'r' => some '\r'
  | 't' => some '\t'
  | _ => none

/-- The pieces up to the closing quote, and what follows it. -/
def readPieces : List Char → Option (List Piece × List Char)
  | [] => none
  | '"' :: cs => some ([], cs)
  | '\\' :: 'u' :: a :: b :: c :: d :: cs =>
    match unit? a b c d with
    | some n => (readPieces cs).map fun (ps, rest) ↦ (.unit n :: ps, rest)
    | none => none
  | '\\' :: c :: cs =>
    match shortEscape? c with
    | some c => (readPieces cs).map fun (ps, rest) ↦ (.char c :: ps, rest)
    | none => none
  | c :: cs =>
    if c.toNat < 0x20 ∨ c = '\\' then none
    else (readPieces cs).map fun (ps, rest) ↦ (.char c :: ps, rest)

/-- The text of the pieces: two units may have to be joined to one character, and a unit that is
half of a pair stands for none. -/
def joinPieces : List Piece → Option (List Char)
  | [] => some []
  | .char c :: ps => (joinPieces ps).map (c :: ·)
  | .unit n :: ps =>
    if n < 0xD800 ∨ 0xE000 ≤ n then (joinPieces ps).map (Char.ofNat n :: ·)
    else if 0xDC00 ≤ n then none
    else
      match ps with
      | .unit m :: ps =>
        if 0xDC00 ≤ m ∧ m < 0xE000 then
          (joinPieces ps).map (Char.ofNat (0x10000 + (n - 0xD800) * 0x400 + (m - 0xDC00)) :: ·)
        else none
      | _ => none

/-- The text after an opening quote, and what follows its closing quote. -/
def readText (cs : List Char) : Option (Option String × List Char) :=
  (readPieces cs).map fun (ps, rest) ↦ ((joinPieces ps).map .ofList, rest)

/-! ## Values -/

/-- The text without the blanks of JSON at its start. -/
def skipBlanks (cs : List Char) : List Char :=
  cs.dropWhile fun c ↦ c = ' ' ∨ c = '\n' ∨ c = '\t' ∨ c = '\r'

mutual

/-- The value at the start of a text, and what follows it; nothing follows what is broken. -/
def Draft.readValue : Nat → List Char → Draft × List Char
  | 0, _ => (.broken, [])
  | fuel + 1, cs =>
    match skipBlanks cs with
    | 'n' :: 'u' :: 'l' :: 'l' :: cs => (.null, cs)
    | 't' :: 'r' :: 'u' :: 'e' :: cs => (.bool true, cs)
    | 'f' :: 'a' :: 'l' :: 's' :: 'e' :: cs => (.bool false, cs)
    | '"' :: cs =>
      match readText cs with
      | some (s, rest) => (.text s, rest)
      | none => (.broken, [])
    | '[' :: cs =>
      let ((items, closed), rest) := Draft.readItems fuel true cs
      (.list items closed, rest)
    | '\x7b' :: cs =>
      let ((members, closed), rest) := Draft.readMembers fuel true cs
      (.record members closed, rest)
    | cs =>
      match readNumber cs with
      | some (n, rest) => (.number n, rest)
      | none => (.broken, [])

/-- The items of a list from here to its end; `first` before the first one. -/
def Draft.readItems : Nat → Bool → List Char → (List Draft × Bool) × List Char
  | 0, _, _ => (([], false), [])
  | fuel + 1, first, cs =>
    match first, skipBlanks cs with
    | _, ']' :: cs => (([], true), cs)
    | true, cs =>
      let (item, rest) := Draft.readValue fuel cs
      let ((items, closed), rest) := Draft.readItems fuel false rest
      ((item :: items, closed), rest)
    | false, ',' :: cs =>
      let (item, rest) := Draft.readValue fuel cs
      let ((items, closed), rest) := Draft.readItems fuel false rest
      ((item :: items, closed), rest)
    | false, _ => (([], false), [])

/-- The members of a record from here to its end; `first` before the first one. -/
def Draft.readMembers :
    Nat → Bool → List Char → (List (Option String × Draft) × Bool) × List Char
  | 0, _, _ => (([], false), [])
  | fuel + 1, first, cs =>
    match first, skipBlanks cs with
    | _, '\x7d' :: cs => (([], true), cs)
    | true, '"' :: cs => Draft.readMember fuel cs
    | true, _ => (([], false), [])
    | false, ',' :: cs =>
      match skipBlanks cs with
      | '"' :: cs => Draft.readMember fuel cs
      | _ => (([], false), [])
    | false, _ => (([], false), [])

/-- A member, from after the opening quote of its name, and the members after it. -/
def Draft.readMember :
    Nat → List Char → (List (Option String × Draft) × Bool) × List Char
  | 0, _ => (([], false), [])
  | fuel + 1, cs =>
    match readText cs with
    | none => (([], false), [])
    | some (name, rest) =>
      match skipBlanks rest with
      | ':' :: cs =>
        let (value, rest) := Draft.readValue fuel cs
        let ((members, closed), rest) := Draft.readMembers fuel false rest
        (((name, value) :: members, closed), rest)
      | _ => (([(name, .broken)], false), [])

end

/-- The value at the start of a text, and what follows it. -/
def Draft.read (cs : List Char) : Draft × List Char :=
  Draft.readValue (2 * cs.length + 1) cs

/-- The value that a text consists of, apart from blanks around it. -/
def Draft.readWhole (cs : List Char) : Draft :=
  let (value, rest) := Draft.read cs
  if (skipBlanks rest).isEmpty then value else .broken

/-! ## What a draft may be skipped as -/

mutual

/-- Whether the text of the value was JSON to its end. -/
def Draft.isWhole : Draft → Bool
  | .list items closed => closed && Draft.areWhole items
  | .record members closed => closed && Draft.haveWhole members
  | .broken => false
  | _ => true

/-- Whether all items are whole. -/
def Draft.areWhole : List Draft → Bool
  | [] => true
  | d :: ds => d.isWhole && Draft.areWhole ds

/-- Whether the values of all members are whole. -/
def Draft.haveWhole : List (Option String × Draft) → Bool
  | [] => true
  | (_, d) :: ms => d.isWhole && Draft.haveWhole ms

end

mutual

/-- The value itself, if all of it can be read and no list or record in it is nested deeper than
`depth`. -/
def Draft.toJson? : Nat → Draft → Option Json
  | _, .null => some .null
  | _, .bool b => some (.bool b)
  | _, .number n => n.map .number
  | _, .text (some s) => some (.text s)
  | _, .text none => none
  | 0, .list .. => none
  | depth + 1, .list items closed =>
    if closed then (Draft.toJsonItems? depth items).map .list else none
  | 0, .record .. => none
  | depth + 1, .record members closed =>
    if closed then (Draft.toJsonMembers? depth members).map .record else none
  | _, .broken => none

/-- The items of a list, if all can be read. -/
def Draft.toJsonItems? : Nat → List Draft → Option (List Json)
  | _, [] => some []
  | depth, d :: ds => do return (← Draft.toJson? depth d) :: (← Draft.toJsonItems? depth ds)

/-- The members of a record, if all can be read. -/
def Draft.toJsonMembers? : Nat → List (Option String × Draft) → Option (List (String × Json))
  | _, [] => some []
  | depth, (name, d) :: ms => do
    return (← name, ← Draft.toJson? depth d) :: (← Draft.toJsonMembers? depth ms)

end

/-- How deeply the lists and records of a value may be nested. -/
def Draft.maxDepth : Nat := 127

/-- The value that a text spells. -/
def Json.parse? (s : String) : Option Json :=
  (Draft.readWhole s.toList).toJson? Draft.maxDepth

end Microblog
