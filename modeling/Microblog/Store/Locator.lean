import Microblog.Text.Form

/-!
# Locators

A locator names a store in the form `file:path?options#remark`.  Path and options are
percent-encoded, and before the path there may be an authority, which is empty or `localhost`.
The options say how the store is to be accessed.
-/

set_option autoImplicit false

namespace Microblog

open Text

/-- How a store is to be accessed. -/
inductive Access where
  /-- The store may only be read. -/
  | reading
  /-- The store has to exist. -/
  | existing
  /-- The store is made if it does not exist. -/
  | creating
  /-- The store is kept in memory. -/
  | memory
deriving DecidableEq, Repr

namespace Access

/-- The access that an option names. -/
def ofName? : String → Option Access
  | "ro" => some reading
  | "rw" => some existing
  | "rwc" => some creating
  | "memory" => some memory
  | _ => none

/-- How much an access allows. -/
def rank : Access → Nat
  | reading => 1
  | existing => 2
  | creating => 3
  | memory => 4

/-- The access after one more option: none allows more than the one before it, but for memory. -/
def narrow? (old new : Access) : Option Access :=
  if new = memory ∨ new.rank ≤ old.rank then some new else none

end Access

/-- What a locator names. -/
structure Locator where
  path : String
  access : Access
deriving DecidableEq, Repr

namespace Locator

/-- The start of a locator. -/
def scheme : String := "file:"

/-- What is left after the authority, if that is one that is allowed. -/
def afterAuthority? : List Char → Option (List Char)
  | '/' :: '/' :: cs =>
    let authority := cs.takeWhile (· ≠ '/')
    if authority = [] ∨ authority = "localhost".toList then some (cs.dropWhile (· ≠ '/'))
    else none
  | cs => some cs

/-- The text of a part, which ends before the first byte that is zero. -/
def decode (cs : List Char) : String :=
  .ofList (Utf8.decodeLossy ((Form.unescape cs).takeWhile (· ≠ 0)))

/-- The options with their values.  An option without a name is none. -/
def options (cs : List Char) : List (String × String) :=
  let pairs := (cs.splitOn '&').map fun cs ↦
    (decode (cs.takeWhile (· ≠ '=')), decode ((cs.dropWhile (· ≠ '=')).drop 1))
  pairs.filter (·.1 ≠ "")

/-- The ways in which files can be accessed. -/
def systems : List String := ["unix", "unix-none", "unix-dotfile", "unix-excl", "memdb"]

/-- The access after one more option. -/
def apply (access : Access) : String × String → Option Access
  | ("mode", mode) => (Access.ofName? mode).bind access.narrow?
  | ("cache", cache) => if cache = "shared" ∨ cache = "private" then some access else none
  | ("vfs", system) => if system ∈ systems then some access else none
  | _ => some access

/-- What the locator names that consists of the scheme and these characters. -/
def ofChars? (cs : List Char) : Option Locator := do
  let cs ← afterAuthority? cs
  let cs := cs.takeWhile (· ≠ '#')
  let options := options ((cs.dropWhile (· ≠ '?')).drop 1)
  let access ← options.foldlM apply .creating
  let access := if ("vfs", "memdb") ∈ options then .memory else access
  return ⟨decode (cs.takeWhile (· ≠ '?')), access⟩

end Locator

end Microblog
