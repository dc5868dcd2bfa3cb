import Microblog.Store.Basic

/-!
# Bringing a store up to date

A store is brought to the present version by a list of statements, which depends only on the version
that it has.  Each of them either finds its work done or does it, so that a run that was cut short
can be started again.
-/

set_option autoImplicit false

namespace Microblog

/-- A statement on the schema. -/
inductive Migration where
  /-- Create the table of versions, unless it is there. -/
  | createVersions
  /-- Create a table, unless it is there. -/
  | createTable (t : Table)
  /-- Create an index, unless it is there. -/
  | createIndex (i : Index)
  /-- Delete all noted versions. -/
  | deleteVersions
  /-- Note a version. -/
  | noteVersion (v : Int)
deriving DecidableEq, Repr

namespace Migration

/-- The statements of the first version: accounts, tweets and what happens between them. -/
def first : List Migration :=
  [.createTable .users, .createTable .tweets, .createTable .likes, .createTable .follows,
    .createTable .notifications, .createIndex .authors, .createIndex .parents,
    .createIndex .oneRetweet, .createIndex .followed, .createIndex .recipients,
    .deleteVersions, .noteVersion 1]

/-- The statements of the second version: hashtags. -/
def second : List Migration :=
  [.createTable .hashtags, .createTable .tagLinks, .createIndex .tags, .deleteVersions,
    .noteVersion 2]

/-- The statements that bring a store of a version up to date. -/
def plan (version : Int) : List Migration :=
  (if version < 1 then first else []) ++ (if version < 2 then second else [])

/-- Whether no two rows of a store would have the same place in an index. -/
def fits (s : Store) : Index → Bool
  | .oneRetweet =>
    let retweets := s.tweets.list.filter (·.retweetId.isSome)
    let marks := retweets.map fun t ↦ (t.userId, t.retweetId)
    marks.eraseDups.length == marks.length
  | _ => true

/-- Carry out one statement. -/
def execute (s : Store) : Migration → Except Cause Store
  | .createVersions =>
    .ok { s with schema.versions := some (s.schema.versions.getD []) }
  | .createTable t =>
    .ok (if s.schema.hasTable t then s
      else { s with schema.tables := s.schema.tables ++ [t] })
  | .createIndex i =>
    if s.schema.hasIndex i then .ok s
    else if ¬ s.schema.hasTable i.table then .error .other
    else if ¬ fits s i then .error .uniqueness
    else .ok { s with schema.indexes := s.schema.indexes ++ [i] }
  | .deleteVersions =>
    match s.schema.versions with
    | some _ => .ok { s with schema.versions := some [] }
    | none => .error .other
  | .noteVersion v =>
    match s.schema.versions with
    | some vs =>
      if v ∈ vs then .error .uniqueness else .ok { s with schema.versions := some (vs ++ [v]) }
    | none => .error .other

end Migration

namespace Store

/-- Carry out statements in order, up to the first one that fails. -/
def run (s : Store) : List Migration → Except Cause Store
  | [] => .ok s
  | m :: ms => do (← Migration.execute s m).run ms

/-- All statements of an update of the store: the plan for its version, after the table of versions
is there. -/
def updates (s : Store) : List Migration := .createVersions :: Migration.plan s.schema.version

/-- A version can be read if it is an integer of 32 bits. -/
def IsVersion (v : Int) : Prop := -2147483648 ≤ v ∧ v ≤ 2147483647

instance (v : Int) : Decidable (IsVersion v) := inferInstanceAs (Decidable (_ ∧ _))

/-- Bring a store up to date. -/
def migrate (s : Store) : Except StoreError Store := do
  if IsVersion s.schema.version then during "update the schema" (s.run s.updates)
  else .error ⟨"get schema version", .place 0⟩

/-- A new store, up to date. -/
def fresh : Except StoreError Store := empty.migrate

/-- Note a version in place of those that are noted. -/
def setVersion (v : Int) (s : Store) : Except Cause Store :=
  s.run [.deleteVersions, .noteVersion v]

end Store

end Microblog
