/-!
# Blank characters

A character is *blank* when it has the Unicode property White_Space.  Blanks are what `trim` takes
off the two ends of a text and what may stand before a hashtag.
-/

set_option autoImplicit false

namespace Microblog.Text

/-- The characters with the Unicode property White_Space. -/
def isBlank (c : Char) : Bool :=
  let n := c.toNat
  (9 ≤ n && n ≤ 13) || n == 0x20 || n == 0x85 || n == 0xA0 || n == 0x1680 ||
    (0x2000 ≤ n && n ≤ 0x200A) || n == 0x2028 || n == 0x2029 || n == 0x202F || n == 0x205F ||
    n == 0x3000

/-- `cs` without the blanks at its start. -/
def trimStart (cs : List Char) : List Char := cs.dropWhile isBlank

/-- `cs` without the blanks at its end. -/
def trimEnd (cs : List Char) : List Char := (cs.reverse.dropWhile isBlank).reverse

/-- `cs` without the blanks at its two ends. -/
def trimChars (cs : List Char) : List Char := trimEnd (trimStart cs)

/-- `s` without the blanks at its two ends. -/
def trim (s : String) : String := .ofList (trimChars s.toList)

/-- Optional text as it is kept: trimmed, and absent when nothing but blanks was given. -/
def tidy (s : Option String) : Option String :=
  (s.map trim).filter (· ≠ "")

end Microblog.Text
