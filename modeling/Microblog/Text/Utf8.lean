/-!
# UTF-8

Texts are sequences of characters; what arrives percent-encoded is a sequence of bytes.  `decode`
reads bytes as UTF-8 and fails where they are none.  `decodeLossy` puts the replacement character in
place of each longest stretch that could have begun a character but does not complete one.
-/

set_option autoImplicit false

namespace Microblog.Text.Utf8

/-- The bytes of a text. -/
def encode (cs : List Char) : List UInt8 := cs.flatMap String.utf8EncodeChar

/-- Which second byte may follow the lead byte `b`, and how many bytes follow `b` in all. -/
def lead (b : UInt8) : Option (Nat × UInt8 × UInt8) :=
  if 0xC2 ≤ b && b ≤ 0xDF then some (1, 0x80, 0xBF)
  else if b == 0xE0 then some (2, 0xA0, 0xBF)
  else if b == 0xED then some (2, 0x80, 0x9F)
  else if 0xE1 ≤ b && b ≤ 0xEF then some (2, 0x80, 0xBF)
  else if b == 0xF0 then some (3, 0x90, 0xBF)
  else if b == 0xF4 then some (3, 0x80, 0x8F)
  else if 0xF1 ≤ b && b ≤ 0xF3 then some (3, 0x80, 0xBF)
  else none

/-- The bits that a lead byte with `n` bytes after it contributes. -/
def leadBits (n : Nat) (b : UInt8) : Nat :=
  match n with
  | 1 => b.toNat - 0xC0
  | 2 => b.toNat - 0xE0
  | _ => b.toNat - 0xF0

/-- Take `n` continuation bytes, the first of which lies from `lo` to `hi`.  Gives the code point if
all are there, and what is left after the bytes that fit. -/
def continued (acc : Nat) : Nat → UInt8 → UInt8 → List UInt8 → Option Nat × List UInt8
  | 0, _, _, bs => (some acc, bs)
  | _ + 1, _, _, [] => (none, [])
  | n + 1, lo, hi, b :: bs =>
    if lo ≤ b && b ≤ hi then continued (acc * 64 + (b.toNat - 0x80)) n 0x80 0xBF bs
    else (none, b :: bs)

/-- One character or one stretch of bytes that is none, and the bytes after it. -/
def next (b : UInt8) (bs : List UInt8) : Option Char × List UInt8 :=
  if b < 0x80 then (some (Char.ofNat b.toNat), bs)
  else
    match lead b with
    | none => (none, bs)
    | some (n, lo, hi) =>
      let (code, rest) := continued (leadBits n b) n lo hi bs
      (code.map Char.ofNat, rest)

/-- The characters of the bytes, `none` for each stretch that is no character; `fuel` bounds the
number of steps, of which each takes a byte at least. -/
def scan : Nat → List UInt8 → List (Option Char)
  | 0, _ => []
  | _, [] => []
  | fuel + 1, b :: bs =>
    let (c, rest) := next b bs
    c :: scan fuel rest

/-- The text of bytes in UTF-8. -/
def decode (bs : List UInt8) : Option (List Char) :=
  let cs := scan bs.length bs
  if cs.all (·.isSome) then some (cs.filterMap id) else none

/-- The text of bytes that are mostly UTF-8. -/
def decodeLossy (bs : List UInt8) : List Char :=
  (scan bs.length bs).map fun c ↦ c.getD (Char.ofNat 0xFFFD)

end Microblog.Text.Utf8
