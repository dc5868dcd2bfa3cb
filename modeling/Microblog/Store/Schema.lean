/-!
# The schema of the store

A store has tables and indexes, each of which may be there or not, and a table of versions that says
how far the schema has been brought.  The rows of a table may refer to rows of other tables, which
are called its parents: whoever adds or deletes a row needs them to be there.
-/

set_option autoImplicit false

namespace Microblog

/-- A table of the store. -/
inductive Table where
  | users
  | tweets
  | likes
  | follows
  | notifications
  | hashtags
  | tagLinks
deriving DecidableEq, Repr

/-- Whether two names differ at most in the case of ASCII letters. -/
def sameName (a b : String) : Bool := a.toList.map Char.toLower == b.toList.map Char.toLower

namespace Table

/-- The name of a table. -/
def name : Table → String
  | users => "users"
  | tweets => "tweets"
  | likes => "likes"
  | follows => "follows"
  | notifications => "notifications"
  | hashtags => "hashtags"
  | tagLinks => "tweet_hashtags"

/-- All tables. -/
def all : List Table := [users, tweets, likes, follows, notifications, hashtags, tagLinks]

/-- The table with a name. -/
def ofName? (name : String) : Option Table := all.find? fun t ↦ sameName t.name name

/-- The tables that the rows of a table refer to. -/
def parents : Table → List Table
  | users | hashtags => []
  | tweets | likes | notifications => [users, tweets]
  | follows => [users]
  | tagLinks => [tweets, hashtags]

/-- The tables whose rows refer to the rows of a table. -/
def children (t : Table) : List Table := all.filter fun c ↦ t ∈ c.parents

end Table

/-- An index of the store. -/
inductive Index where
  | authors
  | parents
  /-- The index that lets nobody retweet a tweet twice. -/
  | oneRetweet
  | followed
  | recipients
  | tags
deriving DecidableEq, Repr

/-- The table of an index. -/
def Index.table : Index → Table
  | authors | parents | oneRetweet => .tweets
  | followed => .follows
  | recipients => .notifications
  | tags => .tagLinks

/-- What a store consists of. -/
structure Schema where
  tables : List Table
  indexes : List Index
  /-- The rows of the table of versions, if that table is there. -/
  versions : Option (List Int)
deriving DecidableEq, Repr

namespace Schema

/-- The schema of a new file. -/
def empty : Schema := ⟨[], [], none⟩

/-- The version of a schema: the least one that is noted, and zero when none is. -/
def version (s : Schema) : Int := ((s.versions.getD []).min?).getD 0

/-- Whether a table is there. -/
def hasTable (s : Schema) (t : Table) : Bool := s.tables.contains t

/-- Whether an index is there. -/
def hasIndex (s : Schema) (i : Index) : Bool := s.indexes.contains i

/-- Take a table out, with its indexes. -/
def dropTable (s : Schema) (t : Table) : Schema :=
  { s with
    tables := s.tables.filter (· ≠ t)
    indexes := s.indexes.filter fun i ↦ i.table ≠ t }

end Schema

end Microblog
