import Microblog.Proofs.Store.Step

/-!
# The graph of tweets

A tweet may answer another one or, as a retweet record, point at another one.  `Store.TweetGraph`
says what this graph looks like: every arrow leads to a stored tweet with a smaller number, a record
points at a tweet that is no record, and nobody has two records of one tweet.

* Some of it is checked when a tweet is inserted, and some of it only by the application, which
  resolves a record to what it points at, once.  That once is enough follows from the graph as it
  was before, so that the parts can only be kept together.
* A deletion takes along whatever refers to what it deletes.  So no survivor refers to a tweet that
  is gone.
* `Store.Threaded` adds what the next statement needs, and is kept by every `Store.Step`.
* Numbers are never used twice: `Store.Outgrows` says that whatever is new has a greater number than
  all that was ever given.
-/

set_option autoImplicit false

namespace Microblog

namespace Store

variable {now : Nat} {s s' s'' : Store}

/-! ## Well-formed graphs -/

/-- The tweets form a forest of replies and retweets. -/
structure TweetGraph (s : Store) : Prop where
  /-- The author is stored. -/
  author : ∀ t ∈ s.tweets.list, s.users.has t.userId = true
  /-- What a reply answers is stored, and older. -/
  parent : ∀ t ∈ s.tweets.list, ∀ p, t.parentId = some p → s.tweets.has p = true ∧ p < t.id
  /-- What a record points at is stored, older, and no record itself. -/
  original : ∀ t ∈ s.tweets.list, ∀ r, t.retweetId = some r →
    r < t.id ∧ ∃ o ∈ s.tweets.list, o.id = r ∧ o.retweetId = none
  /-- A reply is no record. -/
  either : ∀ t ∈ s.tweets.list, t.parentId = none ∨ t.retweetId = none
  /-- A record has neither text nor media. -/
  bare : ∀ t ∈ s.tweets.list, ∀ r, t.retweetId = some r → t.content = none ∧ t.mediaUrl = none
  /-- Nobody has two records of one tweet. -/
  once : ∀ t ∈ s.tweets.list, ∀ u ∈ s.tweets.list, ∀ r, t.retweetId = some r →
    u.retweetId = some r → t.userId = u.userId → t = u

/-- The tweet `a` is stored and refers to `d`. -/
def Refers (s : Store) (a d : Int) : Prop := ∃ t ∈ s.tweets.list, t.id = a ∧ t.RefersTo d

namespace TweetGraph

theorem lt_of_refersTo (h : TweetGraph s) {t : StoredTweet} {d : Int} (ht : t ∈ s.tweets.list)
    (href : t.RefersTo d) : d < t.id := by
  rcases href with hp | hr
  · exact (h.parent t ht d hp).2
  · exact (h.original t ht d hr).1

/-- A chain of references leads to ever smaller numbers. -/
theorem lt_of_transGen (h : TweetGraph s) {a d : Int}
    (hchain : Relation.TransGen s.Refers a d) : d < a := by
  induction hchain with
  | single hstep =>
    obtain ⟨t, ht, rfl, href⟩ := hstep
    exact h.lt_of_refersTo ht href
  | tail _ hstep ih =>
    obtain ⟨t, ht, rfl, href⟩ := hstep
    exact Int.lt_trans (h.lt_of_refersTo ht href) ih

/-- **No tweet refers to itself, however far one follows the references.** -/
theorem acyclic (h : TweetGraph s) (a : Int) : ¬Relation.TransGen s.Refers a a :=
  fun hchain ↦ Int.lt_irrefl a (h.lt_of_transGen hchain)

/-- A tweet refers to one other tweet at most. -/
theorem refersTo_unique (h : TweetGraph s) {t : StoredTweet} {d d' : Int} (ht : t ∈ s.tweets.list)
    (href : t.RefersTo d) (href' : t.RefersTo d') : d = d' := by
  rcases h.either t ht with hnone | hnone
  all_goals
    simp only [StoredTweet.RefersTo, hnone, reduceCtorEq, false_or, or_false] at href href'
    exact Option.some.inj (href.symm.trans href')

/-- **Of what goes away with a tweet, only that tweet itself refers to a survivor.**  Whatever else
goes does so because of the one tweet that it refers to, which goes as well. -/
theorem eq_root_of_refersTo (h : TweetGraph s) {t u : StoredTweet} {d : Int}
    (ht : t ∈ s.tweets.list) (hu : u ∈ s.tweets.list)
    (hgone : StoredTweet.Doomed s.tweets.list [t.id] u.id) (href : u.RefersTo d)
    (hsurvives : ¬StoredTweet.Doomed s.tweets.list [t.id] d) : u = t := by
  generalize hid : u.id = i at hgone
  cases hgone with
  | root hroot => exact Rows.eq_of_key_eq hu ht (hid.trans (List.mem_singleton.1 hroot))
  | step hv href' hd =>
    obtain rfl := Rows.eq_of_key_eq hu hv hid
    exact absurd (h.refersTo_unique hu href href' ▸ hd) hsurvives

/-! ## What keeps a graph well-formed -/

/-- The graph does not depend on the counters, and more accounts do no harm. -/
theorem of_alike (h : TweetGraph s)
    (husers : ∀ id, s.users.has id = true → s'.users.has id = true)
    (hback : ∀ t' ∈ s'.tweets.list, ∃ t ∈ s.tweets.list, t'.Alike t)
    (hforth : ∀ t ∈ s.tweets.list, ∃ t' ∈ s'.tweets.list, t'.Alike t) : TweetGraph s' where
  author t' ht' := by
    obtain ⟨t, ht, e⟩ := hback t' ht'
    exact husers _ (e.userId ▸ h.author t ht)
  parent t' ht' p hp := by
    obtain ⟨t, ht, e⟩ := hback t' ht'
    obtain ⟨hhas, hlt⟩ := h.parent t ht p (e.parentId ▸ hp)
    obtain ⟨u, hu, rfl⟩ := Rows.has_iff.1 hhas
    obtain ⟨u', hu', e'⟩ := hforth u hu
    exact ⟨Rows.has_iff.2 ⟨u', hu', e'.id⟩, e.id ▸ hlt⟩
  original t' ht' r hr := by
    obtain ⟨t, ht, e⟩ := hback t' ht'
    obtain ⟨hlt, o, ho, rfl, hnone⟩ := h.original t ht r (e.retweetId ▸ hr)
    obtain ⟨o', ho', e'⟩ := hforth o ho
    exact ⟨e.id ▸ hlt, o', ho', e'.id, e'.retweetId.trans hnone⟩
  either t' ht' := by
    obtain ⟨t, ht, e⟩ := hback t' ht'
    exact e.parentId ▸ e.retweetId ▸ h.either t ht
  bare t' ht' r hr := by
    obtain ⟨t, ht, e⟩ := hback t' ht'
    exact e.content ▸ e.mediaUrl ▸ h.bare t ht r (e.retweetId ▸ hr)
  once t' ht' u' hu' r htr hur hid := by
    obtain ⟨t, ht, e⟩ := hback t' ht'
    obtain ⟨u, hu, e'⟩ := hback u' hu'
    have htu : t = u := h.once t ht u hu r (e.retweetId ▸ htr) (e'.retweetId ▸ hur)
      (e.userId ▸ e'.userId ▸ hid)
    exact Rows.eq_of_key_eq ht' hu' (e.id.trans (htu ▸ e'.id.symm))

/-- A change of the accounts that takes none out, and of anything but the tweets. -/
theorem congr (h : TweetGraph s) (htweets : s'.tweets = s.tweets)
    (husers : ∀ id, s.users.has id = true → s'.users.has id = true) : TweetGraph s' := by
  refine h.of_alike husers ?_ ?_ <;> rw [htweets] <;> exact fun t ht ↦ ⟨t, ht, .refl t⟩

/-- A change of the counters of a tweet. -/
theorem recount (h : TweetGraph s) {k : Int} {f : StoredTweet → StoredTweet}
    {hkey : ∀ t, Row.key (f t) = Row.key t} (hf : ∀ t, (f t).Alike t) :
    TweetGraph { s with tweets := s.tweets.changeAt k f hkey } := by
  have halike : ∀ t, (if Row.key t = k then f t else t).Alike t := by
    intro t
    split
    · exact hf t
    · exact .refl t
  refine h.of_alike (fun _ hid ↦ hid) (fun t' ht' ↦ ?_) fun t ht ↦ ?_
  · obtain ⟨t, ht, rfl⟩ := List.mem_map.1 ht'
    exact ⟨t, ht, halike t⟩
  · exact ⟨if Row.key t = k then f t else t, List.mem_map_of_mem ht, halike t⟩

/-- A deletion that takes along what refers to what it deletes. -/
theorem without (h : TweetGraph s) {D : List Int}
    (hclosed : ∀ t ∈ s.tweets.list, ∀ d ∈ D, t.RefersTo d → t.id ∈ D) :
    TweetGraph (s.withoutTweets D) := by
  have hmem : ∀ {t}, t ∈ (s.withoutTweets D).tweets.list ↔ t ∈ s.tweets.list ∧ t.id ∉ D := by
    intro t
    simp [withoutTweets]
  -- a survivor refers to survivors only
  have hsurvive : ∀ t ∈ s.tweets.list, t.id ∉ D → ∀ d, t.RefersTo d → d ∉ D :=
    fun t ht htD d href hd ↦ htD (hclosed t ht d hd href)
  constructor
  · exact fun t ht ↦ h.author t (hmem.1 ht).1
  · intro t ht p hp
    obtain ⟨ht, htD⟩ := hmem.1 ht
    obtain ⟨hhas, hlt⟩ := h.parent t ht p hp
    obtain ⟨u, hu, rfl⟩ := Rows.has_iff.1 hhas
    exact ⟨Rows.has_iff.2 ⟨u, hmem.2 ⟨hu, hsurvive t ht htD _ (.inl hp)⟩, rfl⟩, hlt⟩
  · intro t ht r hr
    obtain ⟨ht, htD⟩ := hmem.1 ht
    obtain ⟨hlt, o, ho, rfl, hnone⟩ := h.original t ht r hr
    exact ⟨hlt, o, hmem.2 ⟨ho, hsurvive t ht htD _ (.inr hr)⟩, rfl, hnone⟩
  · exact fun t ht ↦ h.either t (hmem.1 ht).1
  · exact fun t ht ↦ h.bare t (hmem.1 ht).1
  · exact fun t ht u hu ↦ h.once t (hmem.1 ht).1 u (hmem.1 hu).1

end TweetGraph

/-! ## The invariant -/

/-- A well-formed graph, and what makes sure that the next tweet fits into it. -/
structure Threaded (s : Store) : Prop extends TweetGraph s where
  /-- No tweet has a number that was not given yet. -/
  numbered : ∀ t ∈ s.tweets.list, t.id ≤ s.counters.tweets
  /-- The index that lets nobody retweet a tweet twice is there. -/
  index : s.schema.hasIndex .oneRetweet = true

namespace Threaded

/-- **Resolving once is enough**: what is resolved is a stored tweet that is no record. -/
theorem original_of_resolved (h : Threaded s) {r : Int} (hr : s.Resolved r) :
    ∃ o ∈ s.tweets.list, o.id = r ∧ o.retweetId = none := by
  obtain ⟨t, ht, hfound | hpoints⟩ := hr
  · exact ⟨t, ht, hfound⟩
  · exact (h.original t ht r hpoints).2

/-- A new tweet whose references were looked at before. -/
theorem posted (h : Threaded s) {user : Int} {content : Option String}
    {parent target : Option Int} {tweets : Rows StoredTweet}
    (hposted : s.Posted user content parent target tweets)
    (hparent : ∀ p, parent = some p → s.tweets.has p = true)
    (htarget : ∀ r, target = some r → s.Resolved r)
    (heither : parent = none ∨ target = none) : Threaded (s.withPosted tweets) := by
  obtain ⟨time, hlist⟩ := hposted.list
  have hmem : ∀ {t}, t ∈ (s.withPosted tweets).tweets.list ↔
      t ∈ s.tweets.list ∨ t = s.newTweet user content parent target time := by
    intro t
    show t ∈ tweets.list ↔ _
    rw [hlist, List.mem_append, List.mem_singleton]
  have hhas : ∀ {id}, s.tweets.has id = true → (s.withPosted tweets).tweets.has id = true :=
    fun hid ↦ Rows.has_of_append hlist hid
  -- what is stored is older than the new tweet
  have holder : ∀ t ∈ s.tweets.list, t.id < s.counters.tweets + 1 :=
    fun t ht ↦ Int.lt_add_one_iff.2 (h.numbered t ht)
  refine ⟨⟨?_, ?_, ?_, ?_, ?_, ?_⟩, ?_, h.index⟩
  · intro t ht
    rcases hmem.1 ht with ht | rfl
    · exact h.author t ht
    · exact hposted.author
  · intro t ht p hp
    rcases hmem.1 ht with ht | rfl
    · exact ⟨hhas (h.parent t ht p hp).1, (h.parent t ht p hp).2⟩
    · obtain ⟨u, hu, rfl⟩ := Rows.has_iff.1 (hparent p hp)
      exact ⟨hhas (hparent _ hp), holder u hu⟩
  · intro t ht r hr
    rcases hmem.1 ht with ht | rfl
    · obtain ⟨hlt, o, ho, hoid, hnone⟩ := h.original t ht r hr
      exact ⟨hlt, o, hmem.2 (.inl ho), hoid, hnone⟩
    · obtain ⟨o, ho, rfl, hnone⟩ := h.original_of_resolved (htarget r hr)
      exact ⟨holder o ho, o, hmem.2 (.inl ho), rfl, hnone⟩
  · intro t ht
    rcases hmem.1 ht with ht | rfl
    · exact h.either t ht
    · exact heither
  · intro t ht r hr
    rcases hmem.1 ht with ht | rfl
    · exact h.bare t ht r hr
    · refine ⟨?_, rfl⟩
      exact hposted.bare.resolve_left fun hnone ↦ by simp [newTweet, hnone] at hr
  · intro t ht u hu r htr hur hid
    rcases hmem.1 ht with ht | rfl <;> rcases hmem.1 hu with hu | rfl
    · exact h.once t ht u hu r htr hur hid
    · exact absurd htr (hposted.unique h.index r hur t ht hid)
    · exact absurd hur (hposted.unique h.index r htr u hu hid.symm)
    · rfl
  · intro t ht
    rcases hmem.1 ht with ht | rfl
    · exact Int.le_of_lt (holder t ht)
    · exact Int.le_refl _

/-- One step keeps the graph in order. -/
theorem step (hstep : Step s s') (h : Threaded s) : Threaded s' := by
  cases hstep with
  | addUser _ hlist =>
    exact ⟨h.congr rfl fun _ hid ↦ Rows.has_of_append hlist hid, h.numbered, h.index⟩
  | changeUser => exact ⟨h.congr rfl fun _ hid ↦ by simpa using hid, h.numbered, h.index⟩
  | post hposted hparent htarget heither => exact h.posted hposted hparent htarget heither
  | recount hf =>
    refine ⟨h.toTweetGraph.recount hf, fun t' ht' ↦ ?_, h.index⟩
    obtain ⟨t, ht, rfl⟩ := List.mem_map.1 ht'
    have hnumbered := h.numbered t ht
    split
    · exact (hf t).id ▸ hnumbered
    · exact hnumbered
  | without hclosed =>
    exact ⟨h.toTweetGraph.without hclosed, fun t ht ↦ h.numbered t (Rows.mem_keep.1 ht).1, h.index⟩
  | addLike | keepLikes | addFollow | keepFollows =>
    exact ⟨h.congr rfl fun _ hid ↦ hid, h.numbered, h.index⟩
  | other _ htweets =>
    exact ⟨h.congr rfl fun _ hid ↦ hid, htweets ▸ h.numbered, h.index⟩

end Threaded

/-! ## Numbers -/

/-- What is stored now was stored before, or has a greater number than any tweet had then. -/
structure Outgrows (s s' : Store) : Prop where
  counter : s.counters.tweets ≤ s'.counters.tweets
  new : ∀ t ∈ s'.tweets.list, s.tweets.has t.id = true ∨ s.counters.tweets < t.id

namespace Outgrows

theorem refl (s : Store) : Outgrows s s :=
  ⟨Int.le_refl _, fun t ht ↦ .inl (Rows.has_iff.2 ⟨t, ht, rfl⟩)⟩

theorem trans (h : Outgrows s s') (h' : Outgrows s' s'') : Outgrows s s'' := by
  refine ⟨Int.le_trans h.counter h'.counter, fun t ht ↦ ?_⟩
  rcases h'.new t ht with hhas | hlt
  · obtain ⟨u, hu, hid⟩ := Rows.has_iff.1 hhas
    exact hid ▸ h.new u hu
  · exact .inr (Int.lt_of_le_of_lt h.counter hlt)

/-- Tweets that are as they were. -/
theorem of_eq (htweets : s'.tweets = s.tweets) (hcounter : s'.counters.tweets = s.counters.tweets) :
    Outgrows s s' :=
  ⟨Int.le_of_eq hcounter.symm, fun t ht ↦ .inl (Rows.has_iff.2 ⟨t, htweets ▸ ht, rfl⟩)⟩

theorem step (hstep : Step s s') : Outgrows s s' := by
  cases hstep with
  | addUser | changeUser | addLike | keepLikes | addFollow | keepFollows => exact of_eq rfl rfl
  | other _ htweets => exact of_eq rfl htweets
  | post hposted _ _ _ =>
    obtain ⟨time, hlist⟩ := hposted.list
    refine ⟨Int.le_of_lt (Int.lt_succ _), fun t ht ↦ ?_⟩
    rcases List.mem_append.1 (hlist ▸ ht) with ht | ht
    · exact .inl (Rows.has_iff.2 ⟨t, ht, rfl⟩)
    · rw [List.mem_singleton.1 ht]
      exact .inr (Int.lt_succ _)
  | recount hf =>
    refine ⟨Int.le_refl _, fun t' ht' ↦ .inl ?_⟩
    obtain ⟨t, ht, rfl⟩ := List.mem_map.1 ht'
    refine Rows.has_iff.2 ⟨t, ht, ?_⟩
    split
    · exact (hf t).id.symm
    · rfl
  | without _ =>
    exact ⟨Int.le_refl _, fun t ht ↦ .inl (Rows.has_iff.2 ⟨t, (Rows.mem_keep.1 ht).1, rfl⟩)⟩

theorem changes (h : Changes now s s') : Outgrows s s' :=
  h.keeps (fun hchange ↦ hchange.steps.keeps fun hstep hs ↦ hs.trans (step hstep)) (refl s)

end Outgrows

end Store

end Microblog
