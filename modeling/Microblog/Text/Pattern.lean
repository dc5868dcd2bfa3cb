import Microblog.Text.Lowercase

/-!
# Search patterns

A pattern is text in which `%` stands for any sequence of characters, `_` for any one character, and
a backslash takes the meaning away from the character after it.  Letters `A` to `Z` match their
small forms, and the two code points U+FFFE and U+FFFF, which are no characters, count as the
replacement character.  A NUL ends both the pattern and the text that is held against it.

`containing term` and `startingWith term` are the patterns of the searches: the term in lowercase,
with every character that has a meaning taken literally.
-/

set_option autoImplicit false

namespace Microblog.Text.Pattern

/-- A character as it is compared. -/
def compared (c : Char) : Char :=
  if c.toNat = 0xFFFE ∨ c.toNat = 0xFFFF then Char.ofNat 0xFFFD else foldChar c

/-- One element of a pattern. -/
inductive Item where
  /-- Any sequence of characters. -/
  | any
  /-- Any one character. -/
  | one
  /-- This character, whatever it would mean otherwise. -/
  | char (c : Char)
deriving DecidableEq, Repr

/-- The elements of a pattern; `none` if it ends in a backslash, and then nothing matches. -/
def items? : List Char → Option (List Item)
  | [] => some []
  | '\\' :: c :: cs => (items? cs).map (.char c :: ·)
  | ['\\'] => none
  | '%' :: cs => (items? cs).map (.any :: ·)
  | '_' :: cs => (items? cs).map (.one :: ·)
  | c :: cs => (items? cs).map (.char c :: ·)

/-- Whether some end of a text, the text itself and the empty one included, satisfies `p`. -/
def someEnd (p : List Char → Bool) : List Char → Bool
  | [] => p []
  | c :: cs => p (c :: cs) || someEnd p cs

/-- Whether the elements match the whole of a text. -/
def matchItems : List Item → List Char → Bool
  | [], cs => cs.isEmpty
  | .any :: ps, cs => someEnd (matchItems ps) cs
  | .one :: ps, _ :: cs => matchItems ps cs
  | .char p :: ps, c :: cs => compared p == compared c && matchItems ps cs
  | .one :: _, [] => false
  | .char _ :: _, [] => false

/-- A text up to its first NUL. -/
def upToNul (cs : List Char) : List Char := cs.takeWhile (· ≠ '\x00')

/-- Whether `text` matches `pattern`. -/
def like (text pattern : List Char) : Bool :=
  match items? (upToNul pattern) with
  | none => false
  | some ps => matchItems ps (upToNul text)

/-- `cs` with a backslash before each character that has a meaning. -/
def escape : List Char → List Char
  | [] => []
  | c :: cs => if c = '%' ∨ c = '_' ∨ c = '\\' then '\\' :: c :: escape cs else c :: escape cs

/-- The pattern of the texts that start with `term`. -/
def startingWith (term : String) : List Char := escape (lowercase term).toList ++ ['%']

/-- The pattern of the texts that contain `term`. -/
def containing (term : String) : List Char := '%' :: startingWith term

/-- The longest pattern that the store accepts, in bytes. -/
def maxBytes : Nat := 50000

/-- Whether the store accepts the pattern. -/
def fits (pattern : List Char) : Bool := (String.ofList pattern).utf8ByteSize ≤ maxBytes

end Microblog.Text.Pattern
