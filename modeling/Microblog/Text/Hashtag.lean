import Microblog.Text.Blank
import Microblog.Text.Lowercase

/-!
# Hashtags in a text

A hashtag is a non-empty run of tag characters right after a `#` that stands at the start of the
text or right after a blank.  Tags are kept in lowercase, each once, in the order of first
appearance.

Tag characters are the ASCII letters and digits, the underscore, and the two characters beyond ASCII
that case folding identifies with an ASCII letter: the long s and the Kelvin sign.
-/

set_option autoImplicit false

namespace Microblog.Text

/-- The characters of which a tag consists. -/
def isTagChar (c : Char) : Bool :=
  c.isAlphanum || c == '_' || c.toNat == 0x17F || c.toNat == 0x212A

/-- The tags of a text as they are spelled; `edge` says whether a tag may start here. -/
def tagRuns (edge : Bool) : List Char → List (List Char)
  | [] => []
  | c :: cs =>
    if edge && c == '#' && (cs.takeWhile isTagChar).length != 0 then
      cs.takeWhile isTagChar :: tagRuns false cs
    else tagRuns (isBlank c) cs

/-- The hashtags of a text. -/
def hashtags (s : String) : List String :=
  ((tagRuns true s.toList).map fun tag ↦ lowercase (.ofList tag)).eraseDups

end Microblog.Text
