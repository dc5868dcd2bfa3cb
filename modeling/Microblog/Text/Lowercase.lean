import Microblog.Text.CaseTable

/-!
# Lowercase text

`lowercase` is the full lowercase mapping of Unicode, whatever the language: each character goes to
its small letter, `İ` goes to an `i` followed by a combining dot, and a capital sigma becomes a
final sigma at the end of a word.  `foldAscii` touches the letters `A` to `Z` only; it is what the
store compares text with.
-/

set_option autoImplicit false

namespace Microblog.Text

/-- Whether code point `n` lies in one of the ranges. -/
def inRanges (n : Nat) (ranges : List (Nat × Nat)) : Bool :=
  ranges.any fun r ↦ r.1 ≤ n && n ≤ r.2

/-- The letters `A` to `Z` become small; all else stays. -/
def foldChar (c : Char) : Char := if 'A' ≤ c ∧ c ≤ 'Z' then Char.ofNat (c.toNat + 32) else c

/-- `s` with the letters `A` to `Z` made small. -/
def foldAscii (s : String) : String := .ofList (s.toList.map foldChar)

/-- The small letter of a character beyond ASCII, by the runs of the case table. -/
def lowercaseByRuns (n : Nat) : List (Nat × Nat × Nat × Int) → Char
  | [] => Char.ofNat n
  | (first, last, step, shift) :: runs =>
    if first ≤ n && n ≤ last && (n - first) % step == 0 then Char.ofNat (n + shift).toNat
    else lowercaseByRuns n runs

/-- The lowercase form of one character, apart from its neighbours. -/
def lowercaseChar (c : Char) : List Char :=
  if c.toNat < 0x80 then [foldChar c]
  else if c.toNat == 0x130 then ['i', Char.ofNat 0x307]
  else [lowercaseByRuns c.toNat lowercaseRuns]

/-- Case-ignorable characters, then a cased one: what makes a sigma stand inside a word. -/
def meetsCased (cs : List Char) : Bool :=
  match cs.dropWhile fun c ↦ inRanges c.toNat caseIgnorableRanges with
  | [] => false
  | c :: _ => inRanges c.toNat casedRanges

/-- The lowercase form of `cs`, where `before` holds the characters already passed, the nearest
first.  A capital sigma is final when a cased letter stands before it and none after it. -/
def lowercaseFrom (before : List Char) : List Char → List Char
  | [] => []
  | c :: cs =>
    (if c.toNat == 0x3A3 then
      [Char.ofNat (if meetsCased before && !meetsCased cs then 0x3C2 else 0x3C3)]
    else lowercaseChar c) ++ lowercaseFrom (c :: before) cs

/-- The lowercase form of `s`. -/
def lowercase (s : String) : String := .ofList (lowercaseFrom [] s.toList)

end Microblog.Text
