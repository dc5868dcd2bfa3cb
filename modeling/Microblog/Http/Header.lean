import Microblog.Text.Lowercase

/-!
# Headers

Headers are pairs of a name and a value, in order.  Names are the same in small and large letters,
and of several headers with one name the first one counts.
-/

set_option autoImplicit false

namespace Microblog

open Text

/-- Headers, in order. -/
abbrev Headers := List (String × String)

namespace Headers

/-- Whether a character may stand in the name of a header, or of a method. -/
def isTokenChar (c : Char) : Bool :=
  ('a' ≤ c && c ≤ 'z') || ('A' ≤ c && c ≤ 'Z') || ('0' ≤ c && c ≤ '9') ||
    "!#$%&'*+-.^_`|~".toList.contains c

/-- Whether a text is a token. -/
def isToken (s : String) : Bool := s ≠ "" && s.toList.all isTokenChar

/-- Whether a character may stand in the value of a header. -/
def isValueChar (c : Char) : Bool := c = '\t' || (0x20 ≤ c.toNat && c.toNat ≠ 0x7F)

/-- Whether a text may be the value of a header. -/
def isValue (s : String) : Bool := s.toList.all isValueChar

/-- Whether all names and values are possible. -/
def areValid (headers : Headers) : Bool := headers.all fun h ↦ isToken h.1 && isValue h.2

/-- The value of a header, whose name is given in small letters. -/
def get? (headers : Headers) (name : String) : Option String :=
  (headers.find? fun h ↦ h.1.toList.map foldChar == name.toList).map (·.2)

/-- Whether a character can be read as text. -/
def isReadableChar (c : Char) : Bool := c = '\t' || (0x20 ≤ c.toNat && c.toNat < 0x7F)

/-- The value of a header, if all of it can be read as text. -/
def text? (headers : Headers) (name : String) : Option String :=
  (headers.get? name).filter fun s ↦ s.toList.all isReadableChar

end Headers

end Microblog
