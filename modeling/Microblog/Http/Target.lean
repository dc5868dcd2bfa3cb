/-!
# Targets

The target of a request is written in one of three forms: as a path that starts with a slash, with
perhaps a query behind it; as an address with a scheme before such a path, which may then be empty;
or as an address alone.  Nothing depends on the address, so a target is kept as its path and its
query.  A fragment at the end is no part of it and may hold anything.
-/

set_option autoImplicit false

namespace Microblog

/-- What a request is about. -/
structure Target where
  /-- The path as it was sent; empty when only an address was. -/
  path : List Char
  /-- The query as it was sent; empty when there is none. -/
  query : List Char
deriving DecidableEq, Repr

namespace Target

/-! ## Characters -/

/-- Whether a character may stand in a path. -/
def isPathChar (c : Char) : Bool :=
  let n := c.toNat
  n == 0x21 || n == 0x22 || (0x24 ≤ n && n ≤ 0x3B) || n == 0x3D || (0x40 ≤ n && n ≤ 0x5F) ||
    (0x61 ≤ n && n ≤ 0x7E) || 0x80 ≤ n

/-- Whether a character may stand in a query. -/
def isQueryChar (c : Char) : Bool :=
  let n := c.toNat
  n == 0x21 || (0x24 ≤ n && n ≤ 0x3B) || n == 0x3D || (0x3F ≤ n && n ≤ 0x7E) || 0x80 ≤ n

/-- Whether a character may stand in a scheme. -/
def isSchemeChar (c : Char) : Bool := c.isAlphanum || "+-.~".toList.contains c

/-- Whether a character may stand in an address, apart from those that have a meaning there. -/
def isAddressChar (c : Char) : Bool := c.isAlphanum || "!$&'()*+,-.;=_~".toList.contains c

/-! ## Addresses -/

/-- What has been read of an address. -/
structure Scan where
  /-- The number of colons that may still set off a port. -/
  colons : Nat := 0
  /-- Whether a bracket was opened. -/
  isOpened : Bool := false
  /-- Whether a bracket was closed. -/
  isClosed : Bool := false
  /-- Whether a percent sign came that belongs to the host. -/
  hasPercent : Bool := false
  /-- Whether the last character was an at sign. -/
  endsInAt : Bool := false

namespace Scan

/-- The most colons that may come in a row of host characters. -/
def maxColons : Nat := 8

/-- Read one character.  What an at sign ends was about the user, and what a closing bracket ends
was a number between brackets, so that the colons and percent signs before it do not count. -/
def read (s : Scan) (c : Char) : Option Scan :=
  let s := { s with endsInAt := c = '@' }
  if c = ':' then if s.colons < maxColons then some { s with colons := s.colons + 1 } else none
  else if c = '[' then if s.hasPercent || s.isOpened then none else some { s with isOpened := true }
  else if c = ']' then
    if !s.isOpened || s.isClosed then none
    else some { s with isClosed := true, colons := 0, hasPercent := false }
  else if c = '@' then some { s with colons := 0, hasPercent := false }
  else if c = '%' then some { s with hasPercent := true }
  else if isAddressChar c then some s
  else none

/-- Whether an address may end here. -/
def isComplete (s : Scan) : Bool :=
  s.isOpened == s.isClosed && s.colons ≤ 1 && !s.hasPercent && !s.endsInAt

end Scan

/-- Whether `cs` is an address: perhaps a user, then a host, then perhaps a port. -/
def isAddress (cs : List Char) : Bool :=
  !cs.isEmpty && (cs.foldlM Scan.read {}).any Scan.isComplete

/-- Whether a character ends an address. -/
def endsAddress (c : Char) : Bool := c = '/' || c = '?' || c = '#'

/-! ## Targets -/

/-- The longest target, in bytes. -/
def maxBytes : Nat := 65534

/-- The longest scheme. -/
def maxScheme : Nat := 64

/-- The target with this path and what comes behind it. -/
def ofPath? (cs : List Char) : Option Target :=
  let cs := cs.takeWhile (· ≠ '#')
  let path := cs.takeWhile (· ≠ '?')
  let query := (cs.dropWhile (· ≠ '?')).drop 1
  if path.all isPathChar ∧ query.all isQueryChar then some ⟨path, query⟩ else none

/-- The scheme at the start of a text and what follows its slashes, if there is one. -/
def scheme? (cs : List Char) : Option (List Char × List Char) :=
  match cs.dropWhile isSchemeChar with
  | ':' :: '/' :: '/' :: rest => some (cs.takeWhile isSchemeChar, rest)
  | _ => none

/-- The target that starts with an address behind a scheme; an empty path stands for the root. -/
def ofAbsolute? (cs : List Char) : Option Target :=
  if isAddress (cs.takeWhile (!endsAddress ·)) then
    (ofPath? (cs.dropWhile (!endsAddress ·))).map fun t ↦
      { t with path := if t.path.isEmpty then ['/'] else t.path }
  else none

/-- The target that a text spells. -/
def ofText? (s : String) : Option Target :=
  if maxBytes < s.utf8ByteSize then none
  else
    match s.toList with
    | ['*'] => some ⟨['*'], []⟩
    | '/' :: cs => ofPath? ('/' :: cs)
    | cs =>
      match scheme? cs with
      | some (scheme, rest) => if scheme.length ≤ maxScheme then ofAbsolute? rest else none
      | none => if isAddress cs then some ⟨[], []⟩ else none

end Target

end Microblog
