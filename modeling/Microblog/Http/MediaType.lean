import Microblog.Http.Header

/-!
# Media types

A media type is a type, a slash, a subtype and parameters.  What comes before the last plus sign of
a subtype is its base, and what comes after it is its suffix.  A body is JSON when its type is
`application` and the base or the suffix is `json`.
-/

set_option autoImplicit false

namespace Microblog.MediaType

open Headers Text

/-- The rest of a text after its token characters. -/
def skipToken (cs : List Char) : List Char := cs.dropWhile isTokenChar

/-- What follows a quoted value, whose first character may be a quote. -/
def skipQuoted : List Char → Option (List Char)
  | [] => none
  | c :: cs =>
    let rest := cs.dropWhile (· ≠ '"')
    if c.toNat < 0x20 ∨ (cs.takeWhile (· ≠ '"')).any (·.toNat < 0x20) then none
    else
      match rest with
      | '"' :: rest => some rest
      | _ => none

/-- The parameters that follow one of them, if nothing else follows it; `quoted` values may be
followed by blanks. -/
def nextParameter? (quoted : Bool) (cs : List Char) : Option (List Char) :=
  match if quoted then cs.dropWhile (· = ' ') else cs with
  | [] => some []
  | ';' :: cs => some cs
  | _ => none

/-- What follows a parameter. -/
def skipParameter (cs : List Char) : Option (List Char) :=
  match skipToken cs with
  | '=' :: '"' :: value =>
    if (cs.takeWhile isTokenChar).isEmpty then none
    else (skipQuoted value).bind (nextParameter? true)
  | '=' :: value =>
    if (cs.takeWhile isTokenChar).isEmpty then none
    else
      match skipToken value with
      | [] => some []
      | rest => if (value.takeWhile isTokenChar).isEmpty then none else nextParameter? false rest
  | _ => none

/-- Whether a text consists of parameters; `fuel` bounds their number. -/
def areParameters : Nat → List Char → Bool
  | 0, _ => false
  | fuel + 1, cs =>
    match cs.dropWhile (· = ' ') with
    | [] => true
    | cs => (skipParameter cs).any (areParameters fuel)

/-- The base of a subtype. -/
def base (subtype : List Char) : List Char :=
  match subtype.drop 1 with
  | [] => subtype
  | rest =>
    if rest.contains '+' then
      subtype.take 1 ++ ((rest.reverse.dropWhile (· ≠ '+')).drop 1).reverse
    else subtype

/-- The suffix of a subtype. -/
def suffix? (subtype : List Char) : Option (List Char) :=
  let rest := subtype.drop 1
  if rest.contains '+' then some (rest.reverse.takeWhile (· ≠ '+')).reverse else none

/-- Whether a media type is one of JSON. -/
def isJson (s : String) : Bool :=
  match skipToken s.toList with
  | '/' :: rest =>
    let type := (s.toList.takeWhile isTokenChar).map foldChar
    let subtype := (rest.takeWhile isTokenChar).map foldChar
    let json := "json".toList
    let parameters := match skipToken rest with
      | [] => true
      | ';' :: cs => !subtype.isEmpty && areParameters (cs.length + 1) cs
      | _ => false
    type == "application".toList && (base subtype == json || suffix? subtype == some json) &&
      parameters
  | _ => false

end Microblog.MediaType
