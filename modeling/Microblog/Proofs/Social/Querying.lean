import Microblog.Proofs.Social.Answer
import Microblog.Proofs.Store.Failing
import Microblog.Proofs.Store.Listing
import Microblog.Proofs.Text.Trim
import Microblog.Social.Search

/-!
# What a query asks for

A query for tweets names a hashtag, or words that have to be in the text of a tweet
(`Store.MatchesQuery`).  If the store can carry a search out, it lists the tweets that match
(`Store.Readable.searchTweets_eq`).

It cannot if there are too many words, or if a pattern is too long (`Store.WithinLimits`,
`Store.WithinUserLimits`).  A search for too many words fails whatever is stored
(`Action.searchTweets_of_many`).
-/

set_option autoImplicit false

namespace Microblog

open Text

namespace Store

/-- The tweets that a query asks for, as the store lists them. -/
def searchTweets (query : String) (page : Page) (viewer : Option Int) (s : Store) :
    Except StoreError (List SeenTweet) :=
  match Action.queriedTag? query with
  | some tag => if tag = "" then .ok [] else s.tweetsByHashtag tag page viewer
  | none => s.tweetsByTerms (words (trim query)) page viewer

/-- A tweet that a query asks for: it carries the hashtag of the query, or its text contains all the
words. -/
def MatchesQuery (s : Store) (query : String) (t : StoredTweet) : Prop :=
  match Action.queriedTag? query with
  | some tag => tag ≠ "" ∧ tag ∈ s.tagNames t.id
  | none => words (trim query) ≠ [] ∧ ∃ c, t.content = some c ∧
      ∀ word ∈ words (trim query), Pattern.like c.toList (Pattern.containing word) = true

/-- A search for tweets is one that the store can carry out: it is for a hashtag, or for not too
many words none of which is held against a text as a pattern that is too long. -/
def WithinLimits (s : Store) (query : String) : Prop :=
  Action.queriedTag? query = none → (words (trim query)).length < 997 ∧
    ∀ t ∈ s.tweets.list, ∀ c, t.content = some c →
      reachesTooLong c.toList ((words (trim query)).map Pattern.containing) = false

/-- A search for accounts is one that the store can carry out: its pattern is not too long, or there
is nothing that it would be held against. -/
def WithinUserLimits (s : Store) (query : String) : Prop :=
  Pattern.fits (Pattern.containing (trim query)) = true ∨ s.users.list = []

section SearchTweets

variable {s : Store} {query tag : String} {page : Page} {viewer : Option Int}

theorem searchTweets_of_tag (hquery : Action.queriedTag? query = some tag) :
    s.searchTweets query page viewer =
      if tag = "" then .ok [] else s.tweetsByHashtag tag page viewer := by
  rw [searchTweets, hquery]

theorem searchTweets_of_words (hquery : Action.queriedTag? query = none) :
    s.searchTweets query page viewer = s.tweetsByTerms (words (trim query)) page viewer := by
  rw [searchTweets, hquery]

/-- To list the tweets that satisfy nothing gives nothing. -/
theorem Readable.listTweets_false (h : s.Readable) (task : String) (page : Page)
    (viewer : Option Int) :
    s.listTweets task (fun _ ↦ false) StoredTweet.isNewer page viewer = .ok [] := by
  rw [listTweets, requireSeen, h.equipped.require, List.filter_false, List.mergeSort_nil,
    Page.of_nil]
  rfl

/-- A search within the limits is a listing of the tweets that the query asks for. -/
theorem Readable.searchTweets_eq (h : s.Readable) (hlimits : s.WithinLimits query) :
    ∃ (task : String) (p : StoredTweet → Bool),
      (∀ page viewer, s.searchTweets query page viewer =
        s.listTweets task p StoredTweet.isNewer page viewer) ∧
      ∀ t, p t = true ↔ s.MatchesQuery query t := by
  cases hquery : Action.queriedTag? query with
  | some tag =>
    have hmatches : ∀ t, s.MatchesQuery query t ↔ tag ≠ "" ∧ tag ∈ s.tagNames t.id :=
      fun t ↦ by rw [MatchesQuery, hquery]
    by_cases htag : tag = ""
    · refine ⟨"", fun _ ↦ false, fun page viewer ↦ ?_, fun t ↦ ?_⟩
      · rw [searchTweets_of_tag hquery, if_pos htag, h.listTweets_false]
      · rw [hmatches]
        exact iff_of_false Bool.false_ne_true fun ht ↦ ht.1 htag
    · refine ⟨"search tweets by hashtag", fun t ↦ (s.tagNames t.id).contains tag,
        fun page viewer ↦ ?_, fun t ↦ ?_⟩
      · rw [searchTweets_of_tag hquery, if_neg htag, h.tweetsByHashtag_eq]
      · rw [hmatches, List.contains_iff_mem, and_iff_right htag]
  | none =>
    obtain ⟨hcount, hfits⟩ := hlimits hquery
    have hmatches : ∀ t, s.MatchesQuery query t ↔ words (trim query) ≠ [] ∧
        ∃ c, t.content = some c ∧
          ∀ word ∈ words (trim query), Pattern.like c.toList (Pattern.containing word) = true :=
      fun t ↦ by rw [MatchesQuery, hquery]
    by_cases hwords : words (trim query) = []
    · refine ⟨"", fun _ ↦ false, fun page viewer ↦ ?_, fun t ↦ ?_⟩
      · rw [searchTweets_of_words hquery, hwords, h.listTweets_false]
        rfl
      · rw [hmatches]
        exact iff_of_false Bool.false_ne_true fun ht ↦ ht.1 hwords
    · refine ⟨"search tweets", fun t ↦ t.content.any fun c ↦
        ((words (trim query)).map Pattern.containing).all (Pattern.like c.toList ·),
        fun page viewer ↦ ?_, fun t ↦ ?_⟩
      · rw [searchTweets_of_words hquery, h.tweetsByTerms_eq hwords hcount hfits]
      · rw [hmatches, and_iff_right hwords]
        simp only [Option.any_eq_true, List.all_eq_true, List.forall_mem_map]

end SearchTweets

end Store

/-- A search asks the store, and fills in what it lists. -/
theorem Action.answer_searchTweets (query : String) (page : Page) (viewer : Option Int)
    (s : Social) : (searchTweets query page viewer).answer s =
      (ask (Store.searchTweets query page viewer) >>= items viewer).answer s := by
  -- only what the statement gives in this store matters
  have hask : ∀ {statement rows}, statement s.store = rows →
      (ask statement >>= items viewer).answer s =
        (ask (fun _ ↦ rows) >>= items viewer).answer s := by
    rintro statement _ rfl
    rw [ask, ask, bind_assoc, bind_assoc, answer_get_bind, answer_get_bind]
  rw [searchTweets]
  split
  · rename_i tag hquery
    rw [hask (Store.searchTweets_of_tag hquery)]
    split
    · rfl
    · exact hask rfl
  · rename_i hquery
    rw [hask (Store.searchTweets_of_words hquery)]
    split
    · rename_i hwords
      rw [hwords]
      rfl
    · exact hask rfl

/-! ## Too many words -/

/-- A query that does not start with a hash sign is not for a hashtag. -/
theorem Action.queriedTag?_eq_none {query : String} (h : (trim query).toList.head? ≠ some '#') :
    queriedTag? query = none := by
  rw [queriedTag?]
  split
  · rename_i cs hcs
    exact absurd (congrArg List.head? hcs) h
  · rfl

/-- A search for too many words fails, whatever is stored. -/
theorem Action.searchTweets_of_many {s : Social} (h : s.store.Equipped) {query : String}
    (hquery : queriedTag? query = none) (hmany : Store.maxTerms ≤ (words (trim query)).length)
    (page : Page) (viewer : Option Int) :
    (searchTweets query page viewer).answer s = .error (.store ⟨"search tweets", .other⟩) := by
  have hfails : s.store.tweetsByTerms (words (trim query)) page viewer =
      .error ⟨"search tweets", .other⟩ := by
    cases hwords : words (trim query) with
    | nil =>
      rw [hwords] at hmany
      exact absurd hmany (by decide)
    | cons word rest =>
      rw [Store.tweetsByTerms, Store.requireSeen, h.require,
        demand_eq_error_iff.2 ⟨hwords ▸ Nat.not_lt.2 hmany, rfl⟩]
      rfl
  rw [answer_searchTweets, answer_bind, ask, answer_get_bind,
    Store.searchTweets_of_words hquery, hfails]
  rfl

/-- A query of `n` words. -/
def manyWords (n : Nat) : String := .ofList (List.replicate n ['a', ',']).flatten

theorem trim_manyWords (n : Nat) : trim (manyWords n) = manyWords n := by
  have hchars : ∀ c ∈ (List.replicate n ['a', ',']).flatten, ¬isBlank c = true := by
    intro c hc
    obtain ⟨word, hword, hc⟩ := List.mem_flatten.1 hc
    rw [(List.mem_replicate.1 hword).2] at hc
    rcases List.mem_pair.1 hc with rfl | rfl <;> decide
  rw [trim, manyWords, String.toList_ofList, trimChars_eq_self hchars]

theorem words_manyWords (n : Nat) : words (manyWords n) = List.replicate n "a" := by
  have hsplit : (List.replicate n ['a', ',']).flatten.splitOnP (fun c ↦ !c.isAlphanum) =
      List.replicate n ['a'] ++ [[]] := by
    induction n with
    | zero => rfl
    | succ n ih =>
      have hcomma : (!(',').isAlphanum) = true := by decide
      have hfirst := List.splitOnP_append_cons (p := fun c : Char ↦ !c.isAlphanum) ['a']
        (List.replicate n ['a', ',']).flatten hcomma
      rw [ih] at hfirst
      exact hfirst
  have hword : foldAscii (.ofList ['a']) = "a" := by decide
  rw [words, manyWords, String.toList_ofList, hsplit]
  simp [hword]

theorem queriedTag?_manyWords (n : Nat) : Action.queriedTag? (manyWords n) = none := by
  rw [Action.queriedTag?, trim_manyWords, manyWords, String.toList_ofList]
  cases n <;> rfl

end Microblog
