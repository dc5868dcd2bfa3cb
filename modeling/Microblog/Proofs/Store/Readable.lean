import Microblog.Proofs.Json.Record
import Microblog.Proofs.Store.Aside
import Microblog.Proofs.Store.Counters
import Microblog.Proofs.Store.Seen

/-!
# What the application can read

A statement fails when a table is missing, and a row cannot be read when one of its counters is no
integer.  Neither happens to the application: its statements leave the schema as it was migrated,
and a counter is a number of rows.

* `Store.Equipped`: all tables are there, so that `Store.require` lets every statement pass.
* `Store.Readable`: besides, what is named is stored and the counters are right.  So every tweet can
  be read (`Store.Readable.read_tweet`), every page of tweets can be listed
  (`Store.Readable.listTweets_eq_ok`), and all numbers in it have 64 bits.
* `Store.TagsNumbered`: the numbers of hashtags and the tweets that carry them lie in their ranges,
  so that the same is so of the hashtags with their numbers of tweets.
-/

set_option autoImplicit false

namespace Microblog

open Text

/-- A tweet can be read when its counters are integers. -/
theorem StoredTweet.read_eq {t : StoredTweet} {replies retweets likes : Int}
    (hreplies : t.replyCount = .int replies) (hretweets : t.retweetCount = .int retweets)
    (hlikes : t.likeCount = .int likes) :
    t.read = .ok ⟨t.id, t.userId, t.content, t.mediaType, t.mediaUrl, t.parentId, t.retweetId,
      replies, retweets, likes, t.createdAt, t.updatedAt⟩ := by
  rw [read, hreplies, hretweets, hlikes]
  rfl

namespace Store

variable {now : Nat} {s s' : Store}

/-! ## Tables -/

/-- All tables are there. -/
def Equipped (s : Store) : Prop := s.schema.tables = Table.all

theorem Equipped.require (h : s.Equipped) (tables : List Table) : s.require tables = .ok () := by
  have hall : tables.all s.schema.hasTable = true := by
    rw [List.all_eq_true]
    intro t _
    rw [Schema.hasTable, h]
    cases t <;> rfl
  rw [Store.require, if_pos hall]

theorem Step.schema_eq (h : Step s s') : s'.schema = s.schema := by
  cases h <;> rfl

theorem Equipped.change (hchange : Change now s s') (h : s.Equipped) : s'.Equipped :=
  hchange.steps.keeps (fun hstep h ↦ (congrArg Schema.tables hstep.schema_eq).trans h) h

/-! ## Tweets -/

/-- The tables are there, what is named is stored, and the counters are right. -/
structure Readable (s : Store) : Prop where
  equipped : s.Equipped
  grounded : s.Grounded
  exact : s.CountersExact

namespace Readable

theorem change (hchange : Change now s s') (h : s.Readable) : s'.Readable where
  equipped := h.equipped.change hchange
  grounded := h.grounded.change hchange
  exact := h.exact.change hchange h.grounded

theorem fits_tweetId (h : s.Readable) {id : Int} (hid : s.tweets.has id = true) :
    Decimal.Fits id := by
  have hrange := h.grounded.tweet_range hid
  have hlast := h.grounded.tweetsFit.2
  have hleast : Decimal.least ≤ 0 := by decide
  exact ⟨by omega, by omega⟩

theorem fits_userId (h : s.Readable) {id : Int} (hid : s.users.has id = true) :
    Decimal.Fits id := by
  have hrange := h.grounded.user_range hid
  have hlast := h.grounded.usersFit.2
  have hleast : Decimal.least ≤ 0 := by decide
  exact ⟨by omega, by omega⟩

/-- Every tweet can be read, and its numbers have 64 bits. -/
theorem read_tweet (h : s.Readable) {t : StoredTweet} (ht : t ∈ s.tweets.list) :
    ∃ u, t.read = .ok u ∧ u.Fits := by
  have hid : s.tweets.has t.id = true := Rows.has_iff.2 ⟨t, ht, rfl⟩
  refine ⟨_, StoredTweet.read_eq (h.exact.replies t ht) (h.exact.retweets t ht)
    (h.exact.likes t ht), ?_⟩
  refine ⟨h.fits_tweetId hid, h.fits_userId (h.grounded.author t ht), fun p hp ↦ ?_,
    fun r hr ↦ ?_, h.grounded.fits_tweets _, h.grounded.fits_tweets _, h.grounded.fits_likes _⟩
  · exact h.fits_tweetId (h.grounded.parent t ht p hp).1
  · obtain ⟨-, o, ho, rfl, -⟩ := h.grounded.original t ht r hr
    exact h.fits_tweetId (Rows.has_iff.2 ⟨o, ho, rfl⟩)

end Readable

theorem mapM_eq_ok {ε α β : Type} {f : α → Except ε β} {as : List α}
    (h : ∀ a ∈ as, ∃ b, f a = .ok b) : ∃ bs, as.mapM f = .ok bs := by
  induction as with
  | nil => exact ⟨[], rfl⟩
  | cons a as ih =>
    obtain ⟨b, hb⟩ := h a List.mem_cons_self
    obtain ⟨bs, hbs⟩ := ih fun a ha ↦ h a (List.mem_cons_of_mem _ ha)
    refine ⟨b :: bs, ?_⟩
    rw [List.mapM_cons, hb, hbs]
    rfl

namespace Readable

/-- Every listing of tweets succeeds. -/
theorem listTweets_eq_ok (h : s.Readable) (task : String) (p : StoredTweet → Bool)
    (order : StoredTweet → StoredTweet → Bool) (page : Page) (viewer : Option Int) :
    ∃ rows, s.listTweets task p order page viewer = .ok rows := by
  have hseen : ∀ t ∈ page.of ((s.tweets.list.filter p).mergeSort order),
      ∃ row, s.seeTweet viewer t = .ok row := by
    intro t ht
    have hstored : t ∈ s.tweets.list.filter p := List.mem_mergeSort.1 (mem_of_mem_page ht)
    obtain ⟨u, hread, -⟩ := h.read_tweet (List.mem_filter.1 hstored).1
    exact ⟨⟨u, s.flags viewer u⟩, seeTweet_eq_ok_iff.2 ⟨hread, rfl⟩⟩
  obtain ⟨rows, hrows⟩ := mapM_eq_ok hseen
  refine ⟨rows, ?_⟩
  rw [listTweets, during_eq_ok_iff, bind_eq_ok_iff]
  exact ⟨(), h.equipped.require _, hrows⟩

theorem fits_of_shows (h : s.Readable) {viewer : Option Int} {row : SeenTweet}
    (hrow : s.Shows viewer row) : row.tweet.Fits := by
  obtain ⟨t, ht, hread, -⟩ := hrow
  obtain ⟨u, hread', hfits⟩ := h.read_tweet ht
  obtain rfl : u = row.tweet := Except.ok.inj (hread'.symm.trans hread)
  exact hfits

end Readable

/-! ## Hashtags -/

/-- The numbers of hashtags and of the tweets that carry them lie in their ranges. -/
structure TagsNumbered (s : Store) : Prop where
  tags : ∀ tag ∈ s.hashtags.list, 1 ≤ tag.id ∧ tag.id ≤ s.counters.hashtags
  counter : 0 ≤ s.counters.hashtags ∧ s.counters.hashtags ≤ Decimal.greatest
  links : ∀ l ∈ s.tagLinks.list, 1 ≤ l.tweetId ∧ l.tweetId ≤ s.counters.tweets

/-- A hashtag takes the next number, whether it is new or not; so there has to be one. -/
theorem room_of_addTag {name : String} {u : Unit} (h : s.addTag now name = .ok (u, s')) :
    s.counters.hashtags < Decimal.greatest := by
  simp only [addTag, bind_eq_ok_iff, during_eq_ok_iff] at h
  obtain ⟨added, hadded, -⟩ := h
  by_contra hfull
  have hnext : chooseId none s.counters.hashtags = .error .other := if_neg hfull
  have hinsert : s.insertTag { name := some name, createdAt := some (stamp now) } =
      .error .other := by
    rw [insertTag, requireAdding, require]
    split
    · simp only [hnext]
      rfl
    · rfl
  rw [hinsert] at hadded
  cases hadded

namespace TagsNumbered

theorem aside (haside : s.Aside s') (h : s.TagsNumbered) : s'.TagsNumbered where
  tags := by rw [haside.hashtags, haside.lastHashtag]; exact h.tags
  counter := by rw [haside.lastHashtag]; exact h.counter
  links l hl := by
    obtain ⟨p, hlinks⟩ := haside.tagLinks
    have hl : l ∈ s.tagLinks.list := (Rows.mem_keep.1 (hlinks ▸ hl)).1
    exact ⟨(h.links l hl).1, (h.links l hl).2.trans haside.lastTweet⟩

theorem addTag {name : String} {u : Unit} (hrun : s.addTag now name = .ok (u, s'))
    (h : s.TagsNumbered) : s'.TagsNumbered := by
  have hroom := room_of_addTag hrun
  have hcounter : 0 ≤ s.counters.hashtags + 1 ∧ s.counters.hashtags + 1 ≤ Decimal.greatest := by
    have hold := h.counter
    omega
  have hnext : ∀ tag : Tag, 1 ≤ tag.id ∧ tag.id ≤ s.counters.hashtags →
      1 ≤ tag.id ∧ tag.id ≤ s.counters.hashtags + 1 := fun tag htag ↦ by omega
  rcases of_addTag hrun with rfl | ⟨time, hashtags, -, hlist, -, rfl⟩
  · exact ⟨fun tag htag ↦ hnext tag (h.tags tag htag), hcounter, h.links⟩
  · refine ⟨fun tag htag ↦ ?_, hcounter, h.links⟩
    rcases List.mem_append.1 (hlist ▸ htag) with htag | htag
    · exact hnext tag (h.tags tag htag)
    · rw [List.mem_singleton.1 htag]
      have hold := h.counter.1
      show 1 ≤ s.counters.hashtags + 1 ∧ s.counters.hashtags + 1 ≤ s.counters.hashtags + 1
      omega

theorem linkTag {tweet tag : Int} {u : Unit} (hrun : s.linkTag tweet tag = .ok (u, s'))
    (hg : s.Grounded) (h : s.TagsNumbered) : s'.TagsNumbered := by
  rcases of_linkTag hrun with rfl | ⟨l, tagLinks, rfl, -, htweet, -, hlist, rfl⟩
  · exact h
  · refine ⟨h.tags, h.counter, fun m hm ↦ ?_⟩
    rcases List.mem_append.1 (hlist ▸ hm) with hm | hm
    · exact h.links m hm
    · rw [List.mem_singleton.1 hm]
      exact hg.tweet_range htweet

/-- **Whatever the application writes, hashtags keep their numbers in range.** -/
theorem change (hchange : Change now s s') (hg : s.Grounded) (h : s.TagsNumbered) :
    s'.TagsNumbered := by
  rcases hchange.aside_or with haside | ⟨_, _, hrun⟩ | ⟨_, _, hrun⟩ | ⟨_, _, hrun⟩ | ⟨_, _, _, hrun⟩
  · exact h.aside haside
  · obtain ⟨_, _, -, -, -, -, -, -, rfl⟩ := of_createNotification hrun
    exact ⟨h.tags, h.counter, h.links⟩
  · obtain ⟨-, rfl⟩ := of_markRead hrun
    exact ⟨h.tags, h.counter, h.links⟩
  · exact h.addTag hrun
  · exact h.linkTag hrun hg

/-- A hashtag is carried by as many tweets as there are numbers at most. -/
theorem fits_tally (h : s.TagsNumbered) (hg : s.Grounded) (p : Int → Bool) {tag : Tag}
    (htag : tag ∈ s.hashtags.list) : (s.tally p tag).Fits where
  id := by
    have hrange := h.tags tag htag
    have hlast := h.counter.2
    have hleast : Decimal.least ≤ 0 := by decide
    exact ⟨by show Decimal.least ≤ tag.id; omega, by show tag.id ≤ Decimal.greatest; omega⟩
  tweetCount := by
    refine Grounded.fits_of_le (n := s.counters.tweets) ?_ hg.tweetsFit.2
    rw [← List.countP_eq_length_filter]
    refine countP_le_of_range (g := TagLink.tweetId) s.tagLinks.nodup.of_map hg.tweetsFit.1
      (fun l hl m hm hltag hmtag htweet ↦ ?_) fun l hl _ ↦ h.links l hl
    rw [decide_eq_true_eq] at hltag hmtag
    exact Rows.eq_of_key_eq hl hm (Prod.ext htweet (hltag.1.trans hmtag.1.symm))

end TagsNumbered

/-- A ranking of hashtags whose numbers have 64 bits. -/
theorem fits_of_mem_ranked {limit : Int} {p : Int → Bool} (h : s.TagsNumbered) (hg : s.Grounded)
    {tag : Hashtag}
    (htag : tag ∈ ranked limit ((s.hashtags.list.map (s.tally p)).filter (0 < ·.tweetCount))) :
    tag.Fits := by
  have htallied : tag ∈ (s.hashtags.list.map (s.tally p)).filter (0 < ·.tweetCount) :=
    List.mem_mergeSort.1 (mem_of_mem_limited htag)
  obtain ⟨row, hrow, rfl⟩ := List.mem_map.1 (List.mem_filter.1 htallied).1
  exact h.fits_tally hg p hrow

theorem trendingTags_eq_ok (h : s.Equipped) (time hours : Nat) (limit : Int) :
    s.trendingTags time hours limit = .ok (ranked limit
      ((s.hashtags.list.map (s.tally (s.isSince (cutoff time hours)))).filter
        (0 < ·.tweetCount))) := by
  rw [trendingTags, h.require]
  rfl

theorem topTags_eq_ok (h : s.Equipped) (limit : Int) :
    s.topTags limit = .ok (ranked limit
      ((s.hashtags.list.map (s.tally fun _ ↦ true)).filter (0 < ·.tweetCount))) := by
  rw [topTags, h.require]
  rfl

end Store

end Microblog
