import Microblog.Store.Folder
import Microblog.Store.Locator

/-!
# Where a store lies

A store is opened at a path.  The directories on the way to it are made if they are missing, and
then the file, unless it is there.  A file that is there has to be empty or a store; a file of a
single byte counts as empty.

The path is given alone or below a root.  Alone it may be a locator, and a store whose name is empty
or `:memory:` is kept in memory.
-/

set_option autoImplicit false

namespace Microblog

/-- Why a store cannot be opened. -/
inductive OpenError where
  /-- The directory of the store cannot be made. -/
  | directory (path : String)
  /-- The file is no store, or it cannot be one. -/
  | file (path : String)
  /-- The store cannot be written. -/
  | schema
deriving DecidableEq, Repr

/-- The error in words. -/
def OpenError.message : OpenError → String
  | directory path => "Failed to create database directory: " ++ path
  | file path => "Failed to open chirp database at " ++ path
  | schema => "Failed to create schema version table"

namespace Folder

/-- The number of bytes of the path of a root. -/
def rootSize : Nat := 15

/-- The number of bytes of a path from which on no directory can be made. -/
def maxPath : Nat := 4096

/-- The greatest number of bytes of the path of a store. -/
def maxStorePath : Nat := 504

/-- The greatest number of bytes of the name of a store: names that are longer by a suffix are
needed too. -/
def maxStoreName : Nat := maxName - "-journal".utf8ByteSize

/-- Make the directory of a path, if it has one. -/
def makeDirectory (f : Folder) (root : Option String) (path : String) :
    Except OpenError Folder :=
  let directory := Path.directory (root.toList ++ Path.parts path)
  let parts := directory.drop root.toList.length
  let size := root.elim 0 (fun _ ↦ rootSize + 1) + ("/".intercalate parts).utf8ByteSize
  let text := "/".intercalate directory
  if directory = [] then .ok f
  else if size < maxPath ∧ ¬ text.contains '\x00' then
    (f.make? (.start path) parts).elim (.error (.directory text)) .ok
  else .error (.directory text)

/-- What a path without a root names. -/
def locate? (path : String) : Option Locator :=
  if path.startsWith Locator.scheme then Locator.ofChars? (path.toList.drop Locator.scheme.length)
  else some ⟨path, .creating⟩

/-- Whether a store can be in a file: the file is empty or missing, its path is not too long, and
nothing is in the way of the files beside it. -/
def admits (f : Folder) (p : Place) (access : Access) : Bool :=
  !f.isDirectory p && f.hasRoom p && (f.size? p).all (· ≤ 1) &&
    (p.names.getLast?.all (·.utf8ByteSize ≤ maxStoreName)) &&
    (!p.isInside || rootSize + p.size ≤ maxStorePath) &&
    !f.isDirectory (p.beside "-journal") && !f.isDirectory (p.beside "-wal") &&
    match access with
    | .reading => false
    | .existing => !p.isInside || (f.size? p).isSome
    | .creating | .memory => true

/-- Open a store at a path, below a root if there is one.  Gives whether the path leads to something
afterwards. -/
def openStore (f : Folder) (root : Option String) (path : String) : Except OpenError Bool := do
  let root := if path.startsWith "/" then none else root
  let refuse {α : Type} : Except OpenError α :=
    .error (.file (root.elim path fun root ↦ root ++ "/" ++ path))
  let f ← f.makeDirectory root path
  if path.contains '\x00' then refuse
  let locator ← (root.elim (locate? path) fun _ ↦ some ⟨path, .creating⟩).elim refuse .ok
  if locator.access = .memory ∨ (root.isNone ∧ locator.path ∈ ["", ":memory:"]) then
    return f.has path
  let p := Place.ofPath locator.path
  if ¬ f.admits p locator.access then refuse
  if f.isDirectory (p.beside "-shm") then throw .schema
  return (f.addFile p).has path

end Folder

end Microblog
