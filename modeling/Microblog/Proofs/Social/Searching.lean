import Microblog.Proofs.Page
import Microblog.Proofs.Social.Spending
import Microblog.Proofs.Store.Listing

/-!
# Searching for a hashtag

`Social.run_searchable` says of every run what a search for a hashtag finds: the tweets with that
hashtag in their text, the newest first and each of them once, cut into pages.

* Which tweets these are is what the index says, and the index is exact (`Social.tags_run`).
* A page is a window on the listing, and the windows of pages of one size follow each other without
  gaps (`flatten_windows`).
* The store can answer, and the items of the rows can be made, so that there is an answer to every
  page (`Action.answer_searchTweets_eq_ok`).

The index is exact as long as there are numbers left for hashtags.  When there is none left, a tweet
with a new hashtag is not linked to it (`Social.unsearchable_tag`).
-/

set_option autoImplicit false

namespace Microblog

open Text

/-- The items show tweets, one each, in the same order. -/
abbrev Shown (tweets : List StoredTweet) (found : List Item) : Prop :=
  List.Forall₂ (fun t i ↦ t.read = .ok i.tweet) tweets found

namespace Action

variable {s : Social}

/-- A search for a hashtag lists the tweets that carry it. -/
theorem answer_searchTweets_eq_ok (h : s.store.Readable) {query tag : String}
    (hquery : queriedTag? query = some tag) (htag : tag ≠ "") (viewer : Option Int) (n : Nat)
    {size : Nat} (hsize : 2 * size + 3 ≤ maxValues) :
    ∃ found, (searchTweets query ⟨n, size⟩ viewer).answer s = .ok found ∧
      Shown (((s.store.newest fun t ↦ (s.store.tagNames t.id).contains tag).drop
        (n * size)).take size) found := by
  have hwindow : Page.of ⟨n, size⟩ (s.store.newest fun t ↦ (s.store.tagNames t.id).contains tag) =
      ((s.store.newest fun t ↦ (s.store.tagNames t.id).contains tag).drop (n * size)).take size :=
    Page.of_eq_take_drop (.inl (h.length_newest_le _))
  have hfits : ∀ rows : List StoredTweet, 2 * (Page.of ⟨n, size⟩ rows).length + 3 ≤ maxValues :=
    fun rows ↦ by
      have hlength := Page.length_of_le n size rows
      omega
  obtain ⟨found, hfound, hdisplays⟩ :=
    answer_listing_eq_ok h (h.tweetsByHashtag_eq tag ⟨n, size⟩ viewer) (hfits _)
  refine ⟨found, ?_, ?_⟩
  · rw [searchTweets, hquery]
    dsimp only
    rw [if_neg htag]
    exact hfound
  · rw [← hwindow]
    refine hdisplays.imp ?_
    rintro t i ⟨row, hrow, hfills⟩
    rw [hfills.tweet]
    exact (Store.seeTweet_eq_ok_iff.1 hrow).1

end Action

namespace Social

/-- The first `n` pages of a search, each with `size` items at most. -/
def searchPages (s : Social) (query : String) (viewer : Option Int) (size n : Nat) :
    Except Failure (List (List Item)) :=
  (List.range n).mapM fun i : Nat ↦ (Action.searchTweets query ⟨i, size⟩ viewer).answer s

/-- The tweets with a hashtag can be searched. -/
structure Searchable (s : Social) : Prop where
  /-- A tweet is linked to the hashtags in its text, and to no others. -/
  names : ∀ t ∈ s.store.tweets.list, s.store.tagNames t.id = t.hashtags
  /-- A retweet record is linked to none. -/
  bare : ∀ t ∈ s.store.tweets.list, t.retweetId ≠ none → s.store.tagNames t.id = []
  /-- A query for a hashtag finds the tweets with it in their text, the newest first and each once,
  on its pages; these may be as large as the statements allow that fill them in, which is more than
  a request can ask for. -/
  search : ∀ {query : String} {cs : List Char} {tag : String},
    (trim query).toList = '#' :: cs →
    lowercase (.ofList (trimChars (cs.dropWhile (· = '#')))) = tag → tag ≠ "" →
    ∃ tweets : List StoredTweet,
      (∀ t, t ∈ tweets ↔ t ∈ s.store.tweets.list ∧ tag ∈ t.hashtags) ∧
      (tweets.Pairwise fun t u ↦ u.id < t.id) ∧
      ∀ (viewer : Option Int) (size : Nat), 2 * size + 3 ≤ maxValues →
        (∀ n : Nat, ∃ found, (Action.searchTweets query ⟨n, size⟩ viewer).answer s = .ok found ∧
          Shown ((tweets.drop (n * size)).take size) found) ∧
        ∀ n, ∃ pages, s.searchPages query viewer size n = .ok pages ∧
          Shown (tweets.take (n * size)) pages.flatten

theorem searchPages_eq_ok {s : Social} {query : String} {viewer : Option Int} {size : Nat}
    {tweets : List StoredTweet}
    (h : ∀ n : Nat, ∃ found, (Action.searchTweets query ⟨n, size⟩ viewer).answer s = .ok found ∧
      Shown ((tweets.drop (n * size)).take size) found) (n : Nat) :
    ∃ pages, s.searchPages query viewer size n = .ok pages ∧
      Shown (tweets.take (n * size)) pages.flatten :=
  Store.mapM_windows_eq_ok fun i _ ↦ h i

theorem searchable_of_indexed {s : Social} (h : s.store.Orderly) (hindexed : s.store.Indexed) :
    s.Searchable where
  names _ ht := hindexed.tagNames_eq ht
  bare t ht hrecord := by
    obtain ⟨r, hr⟩ := Option.ne_none_iff_exists'.1 hrecord
    rw [hindexed.tagNames_eq ht, StoredTweet.hashtags, (h.grounded.bare t ht r hr).1]
    rfl
  search {query cs tag} hquery htag hne := by
    have hqueried : Action.queriedTag? query = some tag := by
      rw [Action.queriedTag?, hquery, ← htag]
      rfl
    have hpages := fun (viewer : Option Int) (size : Nat) (hsize : 2 * size + 3 ≤ maxValues)
      (n : Nat) ↦ Action.answer_searchTweets_eq_ok h.toReadable hqueried hne viewer n hsize
    refine ⟨_, fun t ↦ ?_, s.store.pairwise_newest _, fun viewer size hsize ↦
      ⟨hpages viewer size hsize, searchPages_eq_ok (hpages viewer size hsize)⟩⟩
    rw [Store.mem_newest]
    refine and_congr_right fun ht ↦ ?_
    rw [List.contains_iff_mem, hindexed.tagNames_eq ht]

theorem indexed_migrated : Store.migrated.Indexed where
  names _ ht := absurd ht List.not_mem_nil
  linked _ hl := absurd hl List.not_mem_nil

/-- **In every run the tweets with a hashtag can be searched**, unless all numbers of hashtags are
given; and no more numbers are given than hashtags were posted. -/
theorem run_searchable (capacity : Nat) (cached : Bool) (lifetimes : Lifetimes)
    (ops : List Operation) :
    (((start capacity cached lifetimes).run ops).Searchable ∨
      ((start capacity cached lifetimes).run ops).store.counters.hashtags = Decimal.greatest) ∧
    ((start capacity cached lifetimes).run ops).store.counters.hashtags ≤
      Operation.taggedBy ops := by
  have horderly := run_orderly capacity cached lifetimes ops
  have htags := tags_run (s := start capacity cached lifetimes) orderly_migrated ops
  refine ⟨?_, htags.less.trans_eq (Int.zero_add _)⟩
  rcases Int.lt_or_eq_of_le horderly.tags.counter.2 with hroom | hfull
  · exact .inl (searchable_of_indexed horderly (htags.indexed indexed_migrated hroom))
  · exact .inr hfull

/-- When all numbers of hashtags are given, a tweet is not linked to a hashtag that is new. -/
theorem unsearchable_tag : ∃ ops, ¬((start 1 false ⟨0, 0⟩).run ops).Searchable := by
  obtain ⟨ops, hfull⟩ := exists_usedUp
  obtain ⟨⟨t, ht, htag⟩, hnamed⟩ := hfull.untagged
  refine ⟨[.createUser { username := "ada", email := "ada@x.org" },
    .createTweet 1 (some "#a") none] ++ (ops ++ [.createTweet 1 (some "#c") none]), ?_⟩
  rw [run_append, run_append]
  intro hsearchable
  rw [← hsearchable.names t ht] at htag
  obtain ⟨row, hrow, hname⟩ := Store.exists_tag_of_mem_tagNames htag
  exact hnamed row hrow hname

/-- Ada has posted three tweets, two of them with one hashtag. -/
def sampleTags : Social :=
  (start 1 false ⟨0, 0⟩).run [.createUser { username := "ada", email := "ada@x.org" },
    .createTweet 1 (some "#\u212Aotlin and #kotlin") none, .createTweet 1 (some "#kotlins") none,
    .createTweet 1 (some "#KOTLIN") none]

/-- The Kelvin sign is the letter k in a hashtag. -/
example : (sampleTags.searchPages " ##Kotlin" none 1 3).toOption.map
    (·.map (·.map (·.tweet.id))) = some [[3], [1], []] := by
  cbv

end Social

end Microblog
