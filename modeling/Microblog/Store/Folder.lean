/-!
# Folders

A folder holds directories and files below some place.  A path is a list of parts, each of which
stays where it is, goes up or goes on to a name.  What lies outside the folder is not known, and it
is taken to be as it has to be.
-/

set_option autoImplicit false

namespace Microblog

/-! ## Paths -/

namespace Path

/-- The parts of a path between its slashes. -/
def parts (path : String) : List String := (path.toList.splitOn '/').map String.ofList

/-- Whether a part stays where it is. -/
def isVoid (part : String) : Bool := part = "" || part = "."

/-- Some parts without the void ones at their end. -/
def trimmed (parts : List String) : List String := (parts.reverse.dropWhile isVoid).reverse

/-- The parts of the directory of a path: those before its last one that is not void.  The first
part of a path counts as such a part; before it there is none. -/
def directory : List String → List String
  | [] => []
  | first :: parts =>
    match trimmed parts with
    | [] => []
    | named => first :: trimmed named.dropLast

end Path

/-- A place, seen from a folder: some steps up, and then down along some names. -/
structure Place where
  up : Nat
  names : List String
deriving DecidableEq, Repr

namespace Place

/-- The place of the folder itself. -/
def here : Place := ⟨0, []⟩

/-- The place that a part of a path leads to. -/
def step (p : Place) (part : String) : Place :=
  if Path.isVoid part then p
  else if part ≠ ".." then { p with names := p.names ++ [part] }
  else if p.names = [] then { p with up := p.up + 1 }
  else { p with names := p.names.dropLast }

/-- Where a path begins: one that starts with a slash begins outside. -/
def start (path : String) : Place := if path.startsWith "/" then ⟨1, []⟩ else here

/-- The place that a path leads to. -/
def ofPath (path : String) : Place := (Path.parts path).foldl step (start path)

/-- Whether a place is known. -/
def isInside (p : Place) : Bool := p.up = 0

/-- The place whose name is longer by some characters. -/
def beside (p : Place) (suffix : String) : Place :=
  { p with names := p.names.dropLast ++ (p.names.getLast?.map (· ++ suffix)).toList }

/-- The number of bytes of the names on the way to a place, with a slash before each. -/
def size (p : Place) : Nat := p.names.foldl (fun n name ↦ n + 1 + name.utf8ByteSize) 0

end Place

/-! ## Folders -/

/-- The directories and files in a folder, each by the names on the way to it. -/
structure Folder where
  directories : List (List String)
  /-- The files, with their sizes in bytes. -/
  files : List (List String × Nat)

namespace Folder

/-- The folder with these directories and these files, each with its text. -/
def of (directories : List String) (files : List (String × String)) : Folder where
  directories := directories.map fun path ↦ (Place.ofPath path).names
  files := files.map fun (path, text) ↦ ((Place.ofPath path).names, text.utf8ByteSize)

/-- The size of a file. -/
def size? (f : Folder) (p : Place) : Option Nat :=
  if p.isInside then f.files.lookup p.names else none

/-- Whether there is a directory. -/
def isDirectory (f : Folder) (p : Place) : Bool :=
  p.names.isEmpty || (p.isInside && (f.directories.any (p.names.isPrefixOf ·) ||
    f.files.any fun e ↦ p.names.isPrefixOf e.1.dropLast))

/-- Whether a file can be in its place, for there is a directory around it. -/
def hasRoom (f : Folder) (p : Place) : Bool :=
  !p.isInside || f.isDirectory { p with names := p.names.dropLast }

/-- Put a directory into the folder. -/
def addDirectory (f : Folder) (p : Place) : Folder :=
  if p.isInside then { f with directories := p.names :: f.directories } else f

/-- Put an empty file into the folder, unless there is one. -/
def addFile (f : Folder) (p : Place) : Folder :=
  if p.isInside ∧ f.size? p = none then { f with files := (p.names, 0) :: f.files } else f

/-- Whether a path leads to something.  A void part at its end can follow a directory only. -/
def has (f : Folder) (path : String) : Bool :=
  let p := Place.ofPath path
  path ≠ "" && (f.isDirectory p ||
    ((!p.isInside || (f.size? p).isSome) && !(Path.parts path).getLast?.any Path.isVoid))

/-- The greatest number of bytes in a name. -/
def maxName : Nat := 255

/-- Make the directories on the way from a place, unless they are there; this fails where a file is
in the way or a name is too long. -/
def make? (f : Folder) (p : Place) : List String → Option Folder
  | [] => some f
  | part :: parts =>
    let p := p.step part
    if maxName < part.utf8ByteSize ∨ (f.size? p).isSome then none
    else (f.addDirectory p).make? p parts

end Folder

end Microblog
