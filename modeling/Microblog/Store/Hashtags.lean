import Microblog.Page
import Microblog.Store.Insert
import Microblog.Text.Pattern

/-!
# Hashtags in the store

Hashtags are ranked by the number of tweets that carry them, those with equal numbers by name.
-/

set_option autoImplicit false

namespace Microblog

open Text

/-- The more used hashtag comes first, of equals by name. -/
def Hashtag.precedes (a b : Hashtag) : Bool :=
  b.tweetCount < a.tweetCount || (a.tweetCount == b.tweetCount && !(b.name < a.name))

namespace Store

/-- Add a hashtag if it is new.  If it is not, the number that it would have got is used up all the
same. -/
def addTag (now : Nat) (name : String) (s : Store) : Except StoreError (Unit × Store) := do
  let added ← during "insert hashtag" <| ignoring <| s.insertTag {
    name := some name
    createdAt := some (stamp now) }
  match added with
  | some (_, s) => return ((), s)
  | none => return ((), { s with counters.hashtags := s.counters.hashtags + 1 })

/-- The number of the hashtag with a name. -/
def tagId (name : String) (s : Store) : Except StoreError Int :=
  during "fetch hashtag id" <|
    (s.hashtags.list.find? (·.name = name)).elim (.error .noRow) fun tag ↦ .ok tag.id

/-- Let a tweet carry a hashtag. -/
def linkTag (tweet tag : Int) (s : Store) : Except StoreError (Unit × Store) := do
  let added ← during "link tweet hashtag" <| ignoring <|
    s.insertTagLink { tweetId := some (.int tweet), tagId := some (.int tag) }
  return ((), (added.map (·.2)).getD s)

/-- A hashtag with the number of those of its tweets that satisfy `p`. -/
def tally (s : Store) (p : Int → Bool) (tag : Tag) : Hashtag :=
  ⟨tag.id, tag.name, (s.tagLinks.list.filter fun l ↦ l.tagId = tag.id ∧ p l.tweetId).length⟩

/-- The first `limit` hashtags by rank. -/
def ranked (limit : Int) (tags : List Hashtag) : List Hashtag :=
  limited limit (tags.mergeSort Hashtag.precedes)

/-- The first second of the last `hours` hours as text, if it lies within the calendar. -/
def cutoff (now hours : Nat) : Option String :=
  Timestamp.text? ((now / 1000000000 : Nat) - 3600 * hours)

/-- Whether a tweet is stored that is not older than a time. -/
def isSince (s : Store) (time : Option String) (tweet : Int) : Bool :=
  time.any fun time ↦ (s.tweets.get? tweet).any fun t ↦ !(t.createdAt < time)

/-- The hashtags of the tweets of the last `hours` hours. -/
def trendingTags (now hours : Nat) (limit : Int) (s : Store) :
    Except StoreError (List Hashtag) :=
  during "fetch trending hashtags" do
    s.require [.tagLinks, .hashtags, .tweets]
    let tallies := s.hashtags.list.map (s.tally (s.isSince (cutoff now hours)))
    return ranked limit (tallies.filter (0 < ·.tweetCount))

/-- The hashtags of all tweets. -/
def topTags (limit : Int) (s : Store) : Except StoreError (List Hashtag) :=
  during "fetch top hashtags" do
    s.require [.tagLinks, .hashtags]
    let tallies := s.hashtags.list.map (s.tally fun _ ↦ true)
    return ranked limit (tallies.filter (0 < ·.tweetCount))

/-- The hashtags whose name starts with a text. -/
def searchTags (start : String) (limit : Int) (s : Store) : Except StoreError (List Hashtag) :=
  during "search hashtags" do
    s.require [.hashtags, .tagLinks]
    let pattern := Pattern.startingWith start
    demand .other (Pattern.fits pattern ∨ s.hashtags.list = [] ∨ limit = 0)
    let found := s.hashtags.list.filter fun t ↦ Pattern.like t.name.toList pattern
    return ranked limit (found.map (s.tally fun _ ↦ true))

end Store

end Microblog
