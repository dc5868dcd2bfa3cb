import Microblog.Page
import Microblog.Store.Insert
import Microblog.Text.Pattern

/-!
# Accounts in the store

Statements on accounts: registration, the profile, look-up by number, and listings.  Search and
suggestions list the most followed accounts first.
-/

set_option autoImplicit false

namespace Microblog

open Text

/-- What somebody registers with. -/
structure NewUser where
  username : String
  email : String
  displayName : Option String := none
  bio : Option String := none
  avatarUrl : Option String := none

/-- The part of a profile that its owner may change. -/
structure Profile where
  displayName : Option String
  bio : Option String

namespace StoredUser

/-- The most followed accounts come first, of equals the older one. -/
def precedes (a b : StoredUser) : Bool :=
  !a.followersCount.le b.followersCount ||
    (b.followersCount.le a.followersCount && a.id ≤ b.id)

/-- Whether the name or the display name of an account matches a pattern. -/
def matchesPattern (u : StoredUser) (pattern : List Char) : Bool :=
  Pattern.like u.username.toList pattern ||
    Pattern.like (u.displayName.getD "").toList pattern

end StoredUser

namespace Store

/-- Register an account. -/
def createUser (now : Nat) (new : NewUser) (s : Store) : Except StoreError (User × Store) := do
  let stamp := stamp now
  let (id, s) ← during "insert user" <| s.insertUser {
    username := some new.username
    email := some new.email
    displayName := new.displayName
    bio := new.bio
    avatarUrl := new.avatarUrl
    createdAt := some stamp
    updatedAt := some stamp }
  let user ← during "fetch user" ((s.users.get? id).elim (.error .noRow) StoredUser.read)
  return (user, s)

/-- An account. -/
def user? (id : Int) (s : Store) : Except StoreError (Option User) :=
  during "fetch user" do
    s.require [.users]
    (s.users.get? id).mapM StoredUser.read

/-- An account as a viewer sees it. -/
def seenUser? (id : Int) (viewer : Option Int) (s : Store) :
    Except StoreError (Option SeenUser) :=
  during "fetch user row" do
    s.require [.users, .follows]
    (s.users.get? id).mapM (s.see viewer)

/-- The accounts with these numbers, each once, by number. -/
def usersByIds (ids : List Int) (viewer : Option Int) (s : Store) :
    Except StoreError (List SeenUser) :=
  if ids.isEmpty then .ok []
  else
    during "fetch users by ids" do
      s.require [.users, .follows]
      demand .other (ids.length + 1 ≤ maxValues)
      let found := s.users.list.filter fun u ↦ ids.contains u.id
      (found.mergeSort fun a b ↦ a.id ≤ b.id).mapM (s.see viewer)

/-- The accounts whose name or display name contains a term. -/
def searchUsers (term : String) (page : Page) (viewer : Option Int) (s : Store) :
    Except StoreError (List SeenUser) :=
  during "search users" do
    s.require [.users, .follows]
    let pattern := Pattern.containing term
    demand .other (Pattern.fits pattern ∨ s.users.list = [] ∨ page.limit = 0)
    let found := s.users.list.filter (·.matchesPattern pattern)
    (page.of (found.mergeSort StoredUser.precedes)).mapM (s.see viewer)

/-- The accounts that a user does not follow yet. -/
def suggestedUsers (viewer : Int) (page : Page) (s : Store) :
    Except StoreError (List SeenUser) :=
  during "list suggested users" do
    s.require [.users, .follows]
    let found := s.users.list.filter fun u ↦ u.id ≠ viewer ∧ ¬ s.follows? (some viewer) u.id
    (page.of (found.mergeSort StoredUser.precedes)).mapM (s.see (some viewer))

/-- The most followed accounts. -/
def topUsers (page : Page) (s : Store) : Except StoreError (List User) :=
  during "list top users" do
    s.require [.users]
    (page.of (s.users.list.mergeSort StoredUser.precedes)).mapM StoredUser.read

/-- Overwrite the profile of an account; gives whether it exists. -/
def writeProfile (now : Nat) (id : Int) (profile : Profile) (s : Store) :
    Except StoreError (Bool × Store) :=
  during "update profile" do
    s.require [.users]
    if s.users.has id then
      let users := s.users.changeAt id
        (fun u ↦ { u with
          displayName := profile.displayName, bio := profile.bio, updatedAt := stamp now })
        fun _ ↦ rfl
      return (true, { s with users })
    else return (false, s)

end Store

end Microblog
