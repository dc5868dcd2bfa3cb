import Microblog.Proofs.Social.Searching
import Microblog.Proofs.Social.Spending
import Microblog.Proofs.Social.Staleness
import Microblog.Proofs.Social.TagSearch
import Microblog.Proofs.Store.Window

/-!
# Trending hashtags

The trending hashtags are those in the texts of the tweets of the last day, or of all tweets if
there is none in those of the last day; the more tweets carry one the sooner it comes, and of equals
the name decides.  `Social.run_trends` says so of every run and of what is computed, when nothing is
found in the cache.

* Which tweets are of the last day is decided by comparing texts, which comes to the same as
  comparing seconds (`Store.isSince_iff`).
* What the store counts are links, and the index of hashtags is exact (`Store.ranks_usedTags`).

The index is exact as long as there are numbers left for hashtags.  When there is none left, a new
hashtag is not stored, and does not trend (`Social.trends_refused`).
-/

set_option autoImplicit false

namespace Microblog

open Text

namespace Social

/-- The trending hashtags are those of the last day. -/
structure Trends (s : Social) : Prop where
  /-- The time of a tweet stands for one second. -/
  times : ∀ t ∈ s.store.tweets.list,
    ∃! second : Nat, Timestamp.text? second = some t.createdAt
  /-- When nothing is found in the cache, the answer begins the ranking of the tweets that count;
  and it is empty only if no tweet carries a hashtag. -/
  ranks : ∀ {time : StoredTweet → Nat}, s.store.Times time → ∀ {limit : Int}, 1 ≤ limit →
    (Action.lookUp (Draft.asList Hashtag.decode) (Cache.trendingKey limit)).answer s = .ok none →
    ∃ all, s.store.Ranks (s.store.window time s.now 24) all ∧
      (Action.trending limit).answer s = .ok (all.take limit.toNat) ∧
      (all.take limit.toNat = [] → ∀ t ∈ s.store.tweets.list, t.hashtags = [])

theorem answer_freshTrending_eq {s : Social} (h : s.store.Equipped) {limit : Int}
    (hlimit : 1 ≤ limit) : (Action.freshTrending limit).answer s =
      .ok (if s.store.usedTags (s.store.isSince (Store.cutoff s.now Action.trendingHours)) = []
        then (s.store.usedTags fun _ ↦ true).take limit.toNat
        else (s.store.usedTags
          (s.store.isSince (Store.cutoff s.now Action.trendingHours))).take limit.toNat) := by
  have hrecent := Store.trendingTags_eq_ok h s.now Action.trendingHours limit
  have hall := Store.topTags_eq_ok h limit
  rw [Store.ranked_eq_take (by omega), ← Store.usedTags] at hrecent hall
  rw [Action.freshTrending, Action.answer_get_bind, Action.answer_bind, Action.after_ask,
    (Action.answer_ask_eq_ok_iff s).2 hrecent]
  simp only [Except.bind]
  split
  · rename_i hnone
    have hempty := (List.take_eq_nil_iff.1 hnone).resolve_left (by omega)
    rw [if_pos hempty]
    exact (Action.answer_ask_eq_ok_iff s).2 hall
  · rename_i hsome
    rw [if_neg fun hempty ↦ hsome (by rw [hempty, List.take_nil])]
    rfl

theorem trends_of_indexed {s : Social} (h : s.store.Equipped) (hdated : s.store.Dated)
    (hlinked : s.store.Linked) (hindexed : s.store.Indexed) : s.Trends where
  times _ ht := hdated.existsUnique ht
  ranks {time} htimes {limit} hlimit hmiss := by
    have hfound : s.cache.bind (·.get? (Draft.asList Hashtag.decode) s.now
        (Cache.trendingKey limit)) = none := Except.ok.inj hmiss
    have hanswer : (Action.trending limit).answer s = (Action.freshTrending limit).answer s :=
      (Action.cached_of_none (Action.after_freshTrending limit s) hfound).1
    rw [hanswer, answer_freshTrending_eq h hlimit]
    have hrecent : s.store.Ranks (s.store.recent time s.now 24)
        (s.store.usedTags (s.store.isSince (Store.cutoff s.now Action.trendingHours))) :=
      Store.ranks_recent hlinked hindexed htimes (by decide)
    have hall := Store.ranks_all hlinked hindexed
    have hempty {tags : List Hashtag} (hnone : tags.take limit.toNat = []) : tags = [] :=
      (List.take_eq_nil_iff.1 hnone).resolve_left (by omega)
    by_cases hnone : ∀ t ∈ s.store.recent time s.now 24, t.hashtags = []
    · have hwindow : s.store.window time s.now 24 = s.store.tweets.list := if_pos hnone
      rw [hwindow, if_pos (hrecent.eq_nil_iff.2 hnone)]
      exact ⟨_, hall, rfl, fun hnothing ↦ hall.eq_nil_iff.1 (hempty hnothing)⟩
    · have hwindow : s.store.window time s.now 24 = s.store.recent time s.now 24 := if_neg hnone
      rw [hwindow, if_neg (mt hrecent.eq_nil_iff.1 hnone)]
      exact ⟨_, hrecent, rfl, fun hnothing ↦ absurd (hrecent.eq_nil_iff.1 (hempty hnothing)) hnone⟩

theorem run_dated (capacity : Nat) (cached : Bool) (lifetimes : Lifetimes)
    (ops : List Operation) : ((start capacity cached lifetimes).run ops).store.Dated :=
  run_keeps Store.Dated.change _ ops fun _ ht ↦ absurd ht List.not_mem_nil

/-- **In every run the trending hashtags are those of the last day**, unless all numbers of hashtags
are given; and no more numbers are given than hashtags were posted. -/
theorem run_trends (capacity : Nat) (cached : Bool) (lifetimes : Lifetimes)
    (ops : List Operation) :
    (((start capacity cached lifetimes).run ops).Trends ∨
      ((start capacity cached lifetimes).run ops).store.counters.hashtags = Decimal.greatest) ∧
    ((start capacity cached lifetimes).run ops).store.counters.hashtags ≤
      Operation.taggedBy ops := by
  have horderly := run_orderly capacity cached lifetimes ops
  have htags := tags_run (s := start capacity cached lifetimes) orderly_migrated ops
  refine ⟨?_, htags.less.trans_eq (Int.zero_add _)⟩
  rcases Int.lt_or_eq_of_le horderly.tags.counter.2 with hroom | hfull
  · exact .inl (trends_of_indexed horderly.equipped (run_dated capacity cached lifetimes ops)
      (run_linked capacity cached lifetimes ops) (htags.indexed indexed_migrated hroom))
  · exact .inr hfull

/-! ## Numbers that run out -/

/-- A hashtag that is not stored is not among the trending ones, also when a tweet of the present
carries it. -/
theorem not_trends_of_named {s : Social} {t : StoredTweet} {name : String}
    (hnow : s.now / 1000000000 ≤ Timestamp.last.toNat) (hcache : s.cache = none)
    (hpresent : ∀ t ∈ s.store.tweets.list, t.createdAt = Store.stamp s.now)
    (ht : t ∈ s.store.tweets.list) (htag : name ∈ t.hashtags) (hnamed : s.store.Named (· ≠ name)) :
    ¬s.Trends := by
  intro htrends
  obtain ⟨htimes, hwindow⟩ := Store.window_of_present 24 hnow hpresent
  have hmiss : (Action.lookUp (Draft.asList Hashtag.decode) (Cache.trendingKey 1)).answer s =
      .ok none := by rw [Action.answer_lookUp, hcache]; rfl
  obtain ⟨all, hranks, -, -⟩ := htrends.ranks htimes (Int.le_refl 1) hmiss
  rw [hwindow] at hranks
  obtain ⟨tag, hlisted, rfl⟩ := List.mem_map.1 ((hranks.names name).2 ⟨t, ht, htag⟩)
  obtain ⟨row, hrow, -, hsame⟩ := hranks.stored tag hlisted
  exact hnamed row hrow hsame

/-- All numbers of hashtags can be used up, and then a hashtag that is posted does not trend. -/
theorem trends_refused : ∃ ops, ¬((start 1 false ⟨0, 0⟩).run ops).Trends := by
  obtain ⟨ops, hfull⟩ := exists_usedUp
  obtain ⟨n, m, hposts⟩ := hfull.posts
  obtain ⟨⟨t, ht, htag⟩, hnamed⟩ := hfull.untagged
  have hfirst : ∀ t ∈ sampleTag.store.tweets.list, t.createdAt = Store.stamp sampleTag.now := by
    decide +kernel
  -- no time has passed since the first tweet
  have hnow : ((sampleTag.run ops).perform (.createTweet 1 (some "#c") none)).now =
      sampleTag.now := (Action.Evolves.createTweet 1 (some "#c") none).now.trans hposts.now
  have hchanges := changes_perform (sampleTag.run ops) (.createTweet 1 (some "#c") none)
  rw [hposts.now] at hchanges
  have hpresent := Store.Changes.present (hposts.changes.trans hchanges) hfirst
  have hcache : ((sampleTag.run ops).perform (.createTweet 1 (some "#c") none)).cache = none :=
    ((Action.Bypasses.createTweet 1 (some "#c") none).cache _).trans (hposts.cache.trans
      (Option.isNone_iff_eq_none.1 (by decide +kernel)))
  refine ⟨[.createUser { username := "ada", email := "ada@x.org" },
    .createTweet 1 (some "#a") none] ++ (ops ++ [.createTweet 1 (some "#c") none]), ?_⟩
  rw [run_append, run_append]
  refine not_trends_of_named (s := (sampleTag.run ops).perform _) ?_ hcache ?_ ht htag hnamed
  · rw [hnow]
    decide +kernel
  · rw [hnow]
    exact hpresent

end Social

end Microblog
