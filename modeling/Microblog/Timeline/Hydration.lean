import Microblog.Timeline.Item

/-!
# Hydration

Hydration makes items of a batch of tweets.  It asks a `Loader` for accounts and tweets by number,
and at most three times however long the batch is: for the authors of the batch, for the tweets that
the batch refers to, and for those of their authors that are not known yet.

* The first two requests have to succeed.  If the third fails, what could not be completed is left
  out.
* An author that a tweet of the batch names has to exist.  A reference whose tweet or author does
  not exist is left out.
-/

set_option autoImplicit false

namespace Microblog

/-- A source of accounts and tweets, which a viewer asks for by number.  It gives those that exist,
in any order, or fails. -/
structure Loader (m : Type → Type) (ε : Type) where
  users : List Int → Option Int → m (Except ε (List SeenUser))
  tweets : List Int → Option Int → m (Except ε (List SeenTweet))

/-- Why a batch cannot be hydrated. -/
inductive HydrationError (ε : Type) where
  /-- The authors could not be loaded. -/
  | authors (e : ε)
  /-- The tweets that the batch refers to could not be loaded. -/
  | references (e : ε)
  /-- The author of a tweet does not exist. -/
  | noAuthor (author tweet : Int)
deriving DecidableEq, Repr

/-! ## Sets of numbers -/

/-- Put `n` into its place in an ascending list, unless it is there. -/
def insertAscending (n : Int) : List Int → List Int
  | [] => [n]
  | m :: ms => if n < m then n :: m :: ms else if n = m then m :: ms else m :: insertAscending n ms

/-- The numbers of a list in ascending order, each once. -/
def ascending (ns : List Int) : List Int := ns.foldr insertAscending []

namespace Hydration

/-- The numbers of the authors of a batch. -/
def authorIds (batch : List Tweet) : List Int := ascending (batch.map Tweet.userId)

/-- The numbers of the tweets that a batch refers to. -/
def referenceIds (batch : List Tweet) : List Int :=
  ascending (batch.flatMap fun t ↦ t.parentId.toList ++ t.retweetId.toList)

/-- The account with a number; of several the last one. -/
def author? (known : List SeenUser) (id : Int) : Option SeenUser :=
  known.findRev? (·.user.id = id)

/-- The numbers of the authors of some tweets who are not known. -/
def missingIds (known : List SeenUser) (rows : List SeenTweet) : List Int :=
  ascending ((rows.map (·.tweet.userId)).filter fun id ↦ (author? known id).isNone)

/-- A tweet as a reference, if its author is known. -/
def reference? (known : List SeenUser) (row : SeenTweet) : Option Reference :=
  (author? known row.tweet.userId).map fun author ↦
    ⟨row.tweet, author, row.flags.isLiked, row.flags.isRetweeted⟩

/-- The reference to a tweet; of several the last one. -/
def find? (references : List Reference) (id : Int) : Option Reference :=
  references.findRev? (·.tweet.id = id)

/-- The item of a tweet. -/
def item {ε : Type} (known : List SeenUser) (references : List Reference) (tweet : Tweet) :
    Except (HydrationError ε) Item :=
  match author? known tweet.userId with
  | none => .error (.noAuthor tweet.userId tweet.id)
  | some author =>
    .ok {
      tweet
      author
      flags := .none
      parentHandle := (tweet.parentId.bind (find? references)).map (·.author.user.username)
      retweeted := tweet.retweetId.bind (find? references) }

variable {m : Type → Type} {ε : Type} [Monad m]

/-- The accounts that are known after the authors of some tweets were asked for, where necessary. -/
def complete (loader : Loader m ε) (viewer : Option Int) (known : List SeenUser)
    (rows : List SeenTweet) : m (List SeenUser) :=
  match missingIds known rows with
  | [] => pure known
  | ids => do
    match ← loader.users ids viewer with
    | .ok found => return known ++ found
    | .error _ => return known

end Hydration

open Hydration in
/-- The items of a batch of tweets, in its order, with no flags set. -/
def hydrate {m : Type → Type} {ε : Type} [Monad m] (loader : Loader m ε) (viewer : Option Int)
    (batch : List Tweet) : m (Except (HydrationError ε) (List Item)) := do
  if batch.isEmpty then return .ok []
  match ← loader.users (authorIds batch) viewer with
  | .error e => return .error (.authors e)
  | .ok known =>
    match referenceIds batch with
    | [] => return batch.mapM (item known [])
    | ids =>
      match ← loader.tweets ids viewer with
      | .error e => return .error (.references e)
      | .ok rows =>
        let known ← complete loader viewer known rows
        return batch.mapM (item known (rows.filterMap (reference? known)))

end Microblog
