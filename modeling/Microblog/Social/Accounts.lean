import Microblog.Social.Basic
import Microblog.Text.Blank

/-!
# Accounts

What somebody does with accounts: look at one, change their own profile, follow and no longer
follow, and list who follows whom.
-/

set_option autoImplicit false

namespace Microblog.Action

open Text

/-- An account as a viewer sees it. -/
def getUser (id : Int) (viewer : Option Int) : Action SeenUser := do
  orFail .noUser (← ask (Store.seenUser? id viewer))

/-- The value of a profile field after a change: a field that is not given keeps its value, and a
blank one is cleared. -/
def edited (old given : Option String) : Option String :=
  match given with
  | some text => tidy (some text)
  | none => old

/-- Overwrite the profile of an account; gives the account after that, if it exists. -/
def putProfile (id : Int) (profile : Profile) : Action (Option User) := do
  if ← change fun now ↦ Store.writeProfile now id profile then ask (Store.user? id)
  else return none

/-- Change the profile of an account. -/
def updateProfile (id : Int) (displayName bio : Option String) : Action User := do
  let user ← orFail .noUser (← ask (Store.user? id))
  let profile : Profile := ⟨edited user.displayName displayName, edited user.bio bio⟩
  orFail .noUser (← putProfile id profile)

/-- Let `follower` follow `target`, who is told if that is new; gives whether it is. -/
def follow (follower target : Int) : Action Bool := do
  if follower = target then fail .ownFollow
  requireActor follower
  let _ ← orFail .noUser (← ask (Store.user? target))
  let added ← change fun now ↦ Store.follow now follower target
  if added then notify target follower none .follow
  return added

/-- Let `follower` no longer follow `target`. -/
def unfollow (follower target : Int) : Action Unit := do
  let _ ← change fun _ ↦ Store.unfollow follower target

/-- Who follows an account. -/
def followers (user : Int) (page : Page) (viewer : Option Int) : Action (List SeenUser) :=
  ask (Store.followers user page viewer)

/-- Whom an account follows. -/
def following (user : Int) (page : Page) (viewer : Option Int) : Action (List SeenUser) :=
  ask (Store.following user page viewer)

/-- Whom to follow: for a viewer the most followed accounts that they do not follow yet, and for
anybody else the most followed ones. -/
def suggested (page : Page) (viewer : Option Int) : Action (List SeenUser) :=
  match viewer with
  | some viewer => ask (Store.suggestedUsers viewer page)
  | none => do return (← ask (Store.topUsers page)).map fun u ↦ ⟨u, false⟩

end Microblog.Action
