import Microblog.Social.Timelines
import Microblog.Text.Blank
import Microblog.Text.Lowercase
import Microblog.Text.Words

/-!
# Search

Tweets are found by hashtag or by words, accounts by a part of their name, hashtags by their start.
Trending are the hashtags of the last day, or all hashtags when the last day has none.
-/

set_option autoImplicit false

namespace Microblog.Action

open Text

/-- A text without the hash signs at its start. -/
def withoutHashes (cs : List Char) : List Char := cs.dropWhile (· = '#')

/-- The hashtag that a query asks for, if it starts with a hash sign. -/
def queriedTag? (query : String) : Option String :=
  match (trim query).toList with
  | '#' :: cs => some (lowercase (.ofList (trimChars (withoutHashes cs))))
  | _ => none

/-- Search tweets: those that carry the hashtag of the query, or those that contain all its words.
-/
def searchTweets (query : String) (page : Page) (viewer : Option Int) : Action (List Item) :=
  match queriedTag? query with
  | some tag =>
    if tag = "" then return []
    else do items viewer (← ask (Store.tweetsByHashtag tag page viewer))
  | none =>
    match words (trim query) with
    | [] => return []
    | terms => do items viewer (← ask (Store.tweetsByTerms terms page viewer))

/-- Search accounts by a part of their name or display name. -/
def searchUsers (query : String) (page : Page) (viewer : Option Int) : Action (List SeenUser) :=
  if trim query = "" then return []
  else ask (Store.searchUsers (trim query) page viewer)

/-- The start of a hashtag that a query asks for. -/
def queriedStart (query : String) : String :=
  lowercase (.ofList (withoutHashes (trimChars query.toList)))

/-- Search hashtags by their start. -/
def searchTags (query : String) (limit : Int) : Action (List Hashtag) :=
  if queriedStart query = "" then return []
  else ask (Store.searchTags (queriedStart query) limit)

/-- How many hours a tweet counts for the trending hashtags. -/
def trendingHours : Nat := 24

/-- The trending hashtags, from the store. -/
def freshTrending (limit : Int) : Action (List Hashtag) := do
  match ← ask (Store.trendingTags (← get).now trendingHours limit) with
  | [] => ask (Store.topTags limit)
  | found => return found

/-- The trending hashtags. -/
def trending (limit : Int) : Action (List Hashtag) :=
  cached (Draft.asList Hashtag.decode) Hashtag.toJson (Cache.trendingKey limit)
    Lifetimes.trending (freshTrending limit)

end Microblog.Action
