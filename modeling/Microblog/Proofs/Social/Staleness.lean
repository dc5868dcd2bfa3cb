import Microblog.Proofs.Social.Caching
import Microblog.Proofs.Social.Reachable

/-!
# How old an answer may be

What the cache holds was put there at some moment of the run (`Social.run_remembers`), it is read as
it was written, and it is no answer any longer when its time is over.  So a request that goes
through the cache answers as it would have at a moment less than a lifetime ago.

`Social.BoundedStaleness` says so, and that viewers neither see the cache nor fill it.
`Social.bounded_staleness` says that it holds in every run.
-/

set_option autoImplicit false

namespace Microblog

namespace Social

/-! ## What was kept comes back -/

/-- All numbers in a page of the feed have 64 bits. -/
theorem fits_feed {store : Store} (hstore : store.Readable) {page : Page} {rows : List SeenTweet}
    (hrows : Store.globalFeed page none store = .ok rows) : ∀ row ∈ rows, row.tweet.Fits :=
  fun row hrow ↦ hstore.fits_of_shows (Store.shows_of_listTweets hrows row hrow)

/-- Rows of the feed that are kept as text are read as they were. -/
theorem parse_feed {store : Store} (hstore : store.Readable) {page : Page} {rows : List SeenTweet}
    (hrows : Store.globalFeed page none store = .ok rows) :
    Decoder.parse (Draft.asList SeenTweet.decode) (Json.list (rows.map SeenTweet.toJson)).render =
      .ok rows :=
  Decoder.parse_list (fun row hrow ↦ SeenTweet.fits_toJson (fits_feed hstore hrows row hrow))
    fun row hrow ↦ SeenTweet.decode_ofJson (fits_feed hstore hrows row hrow)

/-- The trending hashtags are computed in every state of a run. -/
theorem answer_freshTrending {p : Social} (hstore : p.store.Readable)
    (htags : p.store.TagsNumbered) (limit : Int) :
    ∃ tags, (Action.freshTrending limit).answer p = .ok tags ∧ ∀ tag ∈ tags, tag.Fits := by
  have hranked : ∀ p' : Int → Bool, ∀ tag ∈ Store.ranked limit
      ((p.store.hashtags.list.map (p.store.tally p')).filter (0 < ·.tweetCount)), tag.Fits :=
    fun _ _ htag ↦ Store.fits_of_mem_ranked htags hstore.grounded htag
  have hrecent := Store.trendingTags_eq_ok hstore.equipped p.now Action.trendingHours limit
  rw [Action.freshTrending, Action.answer_get_bind, Action.answer_bind, Action.after_ask,
    (Action.answer_ask_eq_ok_iff p).2 hrecent]
  simp only [Except.bind]
  split
  · exact ⟨_, (Action.answer_ask_eq_ok_iff p).2 (Store.topTags_eq_ok hstore.equipped limit),
      hranked _⟩
  · exact ⟨_, rfl, hranked _⟩

theorem fits_trending {p : Social} (hstore : p.store.Readable) (hnumbered : p.store.TagsNumbered)
    {limit : Int} {tags : List Hashtag} (htags : (Action.freshTrending limit).answer p = .ok tags) :
    ∀ tag ∈ tags, tag.Fits := by
  obtain ⟨tags', htags', hfits⟩ := answer_freshTrending hstore hnumbered limit
  obtain rfl : tags' = tags := Except.ok.inj (htags'.symm.trans htags)
  exact hfits

/-- Hashtags that are kept as text are read as they were. -/
theorem parse_trending {p : Social} (hstore : p.store.Readable) (hnumbered : p.store.TagsNumbered)
    {limit : Int} {tags : List Hashtag} (htags : (Action.freshTrending limit).answer p = .ok tags) :
    Decoder.parse (Draft.asList Hashtag.decode) (Json.list (tags.map Hashtag.toJson)).render =
      .ok tags := by
  have hfits := fits_trending hstore hnumbered htags
  exact Decoder.parse_list (fun tag htag ↦ Hashtag.fits_toJson (hfits tag htag))
    fun tag htag ↦ Hashtag.decode_ofJson (hfits tag htag)

/-! ## Staleness -/

/-- A moment of the past that an answer in `s` may be from: it is the present, or less than
`lifetime` ago. -/
structure Recent (past : Social → Prop) (lifetime : Nat) (s p : Social) : Prop where
  past : past p
  now_le : p.now ≤ s.now
  fresh : p = s ∨ s.now - p.now < lifetime

/-- What is known of a moment before `s`. -/
structure Precedes (p s : Social) : Prop where
  now_le : p.now ≤ s.now
  readable : p.store.Readable
  tagsNumbered : p.store.TagsNumbered

section Answers

variable {past : Social → Prop} {lifetimes : Lifetimes} {s : Social}
  (hpast : ∀ p, past p → p.Precedes s)

include hpast

/-- Every entry is the text of a list that is not empty. -/
theorem exists_list_of_from {key : String} {e : CacheEntry} (he : e.From past lifetimes key) :
    ∃ items, items ≠ [] ∧ (Json.list items).Fits ∧ e.json = (Json.list items).render := by
  cases he with
  | @feed p page rows hp hrows hne =>
    have hfits := fits_feed (hpast p hp).readable hrows
    refine ⟨rows.map SeenTweet.toJson, by simpa using hne, ?_, rfl⟩
    rw [Json.Fits, Json.itemsFit_iff]
    exact List.forall_mem_map.2 fun row hrow ↦ SeenTweet.fits_toJson (hfits row hrow)
  | @trending p limit tags hp htags hne =>
    have hfits := fits_trending (hpast p hp).readable (hpast p hp).tagsNumbered htags
    refine ⟨tags.map Hashtag.toJson, by simpa using hne, ?_, rfl⟩
    rw [Json.Fits, Json.itemsFit_iff]
    exact List.forall_mem_map.2 fun tag htag ↦ Hashtag.fits_toJson (hfits tag htag)

variable (h : s.Remembers past lifetimes)

include h

/-- Nothing that is found in the cache is an empty list, whatever it is read as. -/
theorem answer_lookUp_ne_nil {α : Type} (decode : Decoder α) (key : String) :
    (Action.lookUp (Draft.asList decode) key).answer s ≠ .ok (some []) := by
  rw [Action.answer_lookUp]
  intro hempty
  obtain ⟨c, hc, hget⟩ := Option.bind_eq_some_iff.1 (Except.ok.inj hempty)
  obtain ⟨e, hentry, -, hparse⟩ := Cache.get?_eq_some_iff.1 hget
  obtain ⟨items, hne, hfits, hjson⟩ := exists_list_of_from hpast (h.entries c hc key e hentry)
  have hlength : ([] : List α).length = items.length :=
    Decoder.length_of_parse_list hfits (hjson ▸ hparse)
  exact hne (List.length_eq_zero_iff.1 hlength.symm)

/-- What is kept for a page of the feed are rows with which nobody did anything. -/
theorem flags_of_entry {page : Page} {c : Cache} {e : CacheEntry} (hc : s.cache = some c)
    (he : c.entries.get? (Cache.feedKey page.page page.size) = some e) :
    ∃ rows, Decoder.parse (Draft.asList SeenTweet.decode) e.json = .ok rows ∧
      ∀ row ∈ rows, row.flags = .none := by
  obtain ⟨p, rows, hp, hrows, rfl⟩ := (h.entries c hc _ e he).of_feedKey
  refine ⟨rows, parse_feed (hpast p hp).readable hrows, fun row hrow ↦ ?_⟩
  obtain ⟨t, -, -, hflags⟩ := Store.shows_of_listTweets hrows row hrow
  rw [hflags, Store.flags_none]

variable (hs : past s)

include hs

/-- The rows of the feed of everybody are those of a recent moment. -/
theorem answer_feedRows (page : Page) :
    ∃ p rows, Recent past lifetimes.feed s p ∧ Store.globalFeed page none p.store = .ok rows ∧
      (Action.feedRows page none).answer s = .ok rows := by
  rw [Action.feedRows]
  cases hfound : s.cache.bind (·.get? (Draft.asList SeenTweet.decode) s.now
      (Cache.feedKey page.page page.size)) with
  | none =>
    obtain ⟨rows, hrows⟩ := (hpast s hs).readable.listTweets_eq_ok _ _ _ page none
    rw [(Action.cached_of_none (Action.after_ask s _) hfound).1]
    exact ⟨s, rows, ⟨hs, Nat.le_refl _, .inl rfl⟩, hrows, (Action.answer_ask_eq_ok_iff s).2 hrows⟩
  | some found =>
    rw [(Action.cached_of_some hfound).1]
    obtain ⟨c, hc, hget⟩ := Option.bind_eq_some_iff.1 hfound
    obtain ⟨e, hentry, hlive, hparse⟩ := Cache.get?_eq_some_iff.1 hget
    obtain ⟨p, rows, hp, hrows, rfl⟩ := (h.entries c hc _ e hentry).of_feedKey
    obtain rfl : found = rows :=
      Except.ok.inj (hparse.symm.trans (parse_feed (hpast p hp).readable hrows))
    exact ⟨p, found, ⟨hp, (hpast p hp).now_le, .inr hlive⟩, hrows, rfl⟩

/-- The trending hashtags are those of a recent moment. -/
theorem answer_trending (limit : Int) :
    ∃ p tags, Recent past lifetimes.trending s p ∧
      (Action.freshTrending limit).answer p = .ok tags ∧
      (Action.trending limit).answer s = .ok tags := by
  rw [Action.trending]
  cases hfound : s.cache.bind (·.get? (Draft.asList Hashtag.decode) s.now
      (Cache.trendingKey limit)) with
  | none =>
    obtain ⟨tags, htags, -⟩ :=
      answer_freshTrending (hpast s hs).readable (hpast s hs).tagsNumbered limit
    rw [(Action.cached_of_none (Action.after_freshTrending limit s) hfound).1]
    exact ⟨s, tags, ⟨hs, Nat.le_refl _, .inl rfl⟩, htags, htags⟩
  | some found =>
    rw [(Action.cached_of_some hfound).1]
    obtain ⟨c, hc, hget⟩ := Option.bind_eq_some_iff.1 hfound
    obtain ⟨e, hentry, hlive, hparse⟩ := Cache.get?_eq_some_iff.1 hget
    obtain ⟨p, tags, hp, htags, rfl⟩ := (h.entries c hc _ e hentry).of_trendingKey
    have hkept := parse_trending (hpast p hp).readable (hpast p hp).tagsNumbered htags
    obtain rfl : found = tags := Except.ok.inj (hparse.symm.trans hkept)
    exact ⟨p, found, ⟨hp, (hpast p hp).now_le, .inr hlive⟩, htags, rfl⟩

end Answers

/-! ## Runs -/

/-- How the cache may be seen in `s`, where `past` are the moments up to `s`. -/
structure BoundedStaleness (past : Social → Prop) (lifetimes : Lifetimes) (s : Social) : Prop where
  /-- Who is no viewer gets the rows of a recent moment, hydrated from the store as it is. -/
  feed : ∀ page, ∃ p rows, Recent past lifetimes.feed s p ∧
    Store.globalFeed page none p.store = .ok rows ∧
    (Action.globalFeed page none).answer s = (Action.items none rows).answer s
  /-- The trending hashtags are those that would have been computed at a recent moment. -/
  trending : ∀ limit, ∃ p tags, Recent past lifetimes.trending s p ∧
    (Action.freshTrending limit).answer p = .ok tags ∧
    (Action.trending limit).answer s = .ok tags
  /-- A viewer gets the rows of the store as it is, whatever is in the cache, and leaves the cache
  as it is. -/
  viewer : ∀ page viewer, ∃ rows, Store.globalFeed page (some viewer) s.store = .ok rows ∧
    ∀ cache, (Action.globalFeed page (some viewer)).answer { s with cache } =
        (Action.items (some viewer) rows).answer s ∧
      (Action.globalFeed page (some viewer)).after { s with cache } = { s with cache }
  /-- What is kept for a page are rows with which nobody did anything. -/
  flags : ∀ (page : Page) (c : Cache) (e : CacheEntry), s.cache = some c →
    c.entries.get? (Cache.feedKey page.page page.size) = some e →
    ∃ rows, Decoder.parse (Draft.asList SeenTweet.decode) e.json = .ok rows ∧
      ∀ row ∈ rows, row.flags = .none
  /-- No empty list is found in the cache. -/
  nonempty : ∀ {α : Type} (decode : Decoder α) (key : String),
    (Action.lookUp (Draft.asList decode) key).answer s ≠ .ok (some [])

theorem run_precedes {capacity : Nat} {cached : Bool} {lifetimes : Lifetimes}
    {ops : List Operation} {p : Social} (hp : Moment (start capacity cached lifetimes) ops p) :
    p.Precedes ((start capacity cached lifetimes).run ops) := by
  have hnow := hp.now_le
  obtain ⟨done, -, rfl⟩ := hp
  obtain ⟨hreadable, hnumbered⟩ := run_readable capacity cached lifetimes done
  exact ⟨hnow, hreadable, hnumbered⟩

/-- **The cache answers with what was true less than a lifetime ago, and viewers never see it.**
-/
theorem bounded_staleness (capacity : Nat) (lifetimes : Lifetimes) (ops : List Operation) :
    BoundedStaleness (Moment (start capacity true lifetimes) ops) lifetimes
      ((start capacity true lifetimes).run ops) := by
  have hpast : ∀ p, Moment (start capacity true lifetimes) ops p →
      p.Precedes ((start capacity true lifetimes).run ops) := fun _ hp ↦ run_precedes hp
  have hs := Moment.last (start capacity true lifetimes) ops
  have hentries := run_remembers capacity true lifetimes ops
  generalize (start capacity true lifetimes).run ops = s at hpast hs hentries ⊢
  refine ⟨fun page ↦ ?_, answer_trending hpast hentries hs, fun page viewer ↦ ?_,
    fun page c e hc he ↦ flags_of_entry hpast hentries hc he,
    fun decode key ↦ answer_lookUp_ne_nil hpast hentries decode key⟩
  · obtain ⟨p, rows, hrecent, hrows, hanswer⟩ := answer_feedRows hpast hentries hs page
    have hstore : ((Action.feedRows page none).after s).store = s.store :=
      (Action.Keeps.cached (Action.Looks.ask _).keeps).store s
    refine ⟨p, rows, hrecent, hrows, ?_⟩
    rw [Action.globalFeed, Action.answer_bind, hanswer]
    exact (Action.Looks.items none rows).answer _ _ hstore
  · obtain ⟨rows, hrows⟩ := (hpast s hs).readable.listTweets_eq_ok _ _ _ page (some viewer)
    refine ⟨rows, hrows, fun cache ↦ ⟨?_, (Action.Looks.globalFeed page viewer).after _⟩⟩
    have hcache : (Action.globalFeed page (some viewer)).answer { s with cache } =
        (Action.globalFeed page (some viewer)).answer s :=
      (Action.Looks.globalFeed page viewer).answer _ _ rfl
    have hanswer : (Action.feedRows page (some viewer)).answer s = .ok rows :=
      (Action.answer_ask_eq_ok_iff s).2 hrows
    rw [hcache, Action.globalFeed, Action.answer_bind, hanswer]
    exact (Action.Looks.items (some viewer) rows).answer _ _ (congrArg store (Action.after_ask s _))

end Social

end Microblog
