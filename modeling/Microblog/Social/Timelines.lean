import Microblog.Social.Basic

/-!
# Timelines

The feeds, threads and single tweets.  The feed of everybody is cached for those who are no viewer:
what is cached are the rows of the page, which are hydrated anew each time.
-/

set_option autoImplicit false

namespace Microblog.Action

/-- Keep a value in the cache, if there is one. -/
def remember (key : String) (value : Json) (lifetime : Nat) : Action Unit :=
  modify fun s ↦ { s with cache := s.cache.map (·.put s.now key value lifetime) }

/-- The value in the cache, if there is one. -/
def lookUp {α : Type} (decode : Decoder α) (key : String) : Action (Option α) := do
  let s ← get
  return s.cache.bind (·.get? decode s.now key)

/-- The value in the cache, or the one that is computed and, unless it is empty, kept. -/
def cached {α : Type} (decode : Decoder (List α)) (encode : α → Json) (key : String)
    (lifetime : Lifetimes → Nat) (compute : Action (List α)) : Action (List α) := do
  match ← lookUp decode key with
  | some found => return found
  | none =>
    let found ← compute
    if ¬ found.isEmpty then
      remember key (.list (found.map encode)) (lifetime (← get).lifetimes)
    return found

/-- The rows of the feed of everybody. -/
def feedRows (page : Page) (viewer : Option Int) : Action (List SeenTweet) :=
  match viewer with
  | some _ => ask (Store.globalFeed page viewer)
  | none =>
    cached (Draft.asList SeenTweet.decode) SeenTweet.toJson (Cache.feedKey page.page page.size)
      Lifetimes.feed (ask (Store.globalFeed page none))

/-- The feed of everybody. -/
def globalFeed (page : Page) (viewer : Option Int) : Action (List Item) := do
  items viewer (← feedRows page viewer)

/-- The feed of those whom the viewer follows and of the viewer. -/
def followingFeed (viewer : Int) (page : Page) : Action (List Item) := do
  items (some viewer) (← ask (Store.followingFeed viewer page))

/-- Everything that a user posted. -/
def userFeed (user : Int) (page : Page) (viewer : Option Int) : Action (List Item) := do
  items viewer (← ask (Store.userTweets user page viewer))

/-- A single tweet. -/
def getTweet (tweet : Int) (viewer : Option Int) : Action Item := do
  let row ← orFail .noTweet (← ask (Store.seenTweet? tweet viewer))
  orFail .noTweet (← items viewer [row]).head?

/-- The replies to a tweet. -/
def replies (tweet : Int) (page : Page) (viewer : Option Int) : Action (List Item) := do
  items viewer (← ask (Store.replies tweet page viewer))

end Microblog.Action
