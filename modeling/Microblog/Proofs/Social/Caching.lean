import Mathlib.Data.List.Induction
import Microblog.Proofs.Cache
import Microblog.Proofs.Social.Run

/-!
# What the cache holds

Two requests go through the cache: the feed of everybody for those who are no viewer, and the
trending hashtags.  All others leave it alone (`Action.Bypasses`).

`CacheEntry.From` says that an entry was put into the cache at a moment of the past and holds what
its key stood for then.  All entries are like this after every run (`Social.run_remembers`), where
the past are the moments of that run.
-/

set_option autoImplicit false

namespace Microblog

namespace Action

variable {α β : Type}

/-! ## Actions that leave the cache alone -/

/-- An action that leaves the cache, and how long it keeps what, as they are. -/
structure Bypasses (a : Action α) : Prop where
  cache : ∀ s, (a.after s).cache = s.cache
  lifetimes : ∀ s, (a.after s).lifetimes = s.lifetimes

theorem Looks.bypasses {a : Action α} (h : a.Looks) : a.Bypasses :=
  ⟨fun s ↦ by rw [h.after], fun s ↦ by rw [h.after]⟩

namespace Bypasses

theorem bind {a : Action α} {f : α → Action β} (ha : a.Bypasses) (hf : ∀ x, (f x).Bypasses) :
    (a >>= f).Bypasses where
  cache s := part_after_bind s Social.cache ha.cache fun x ↦ (hf x).cache
  lifetimes s := part_after_bind s Social.lifetimes ha.lifetimes fun x ↦ (hf x).lifetimes

/-- A statement writes to the store only. -/
theorem change (statement : Nat → Store → Except StoreError (α × Store)) :
    (Action.change statement).Bypasses := by
  constructor <;> intro s <;>
    rcases change_error_or_ok s statement with ⟨-, -, hafter⟩ | ⟨_, _, -, -, hafter⟩ <;>
    rw [hafter]

theorem attempt {a : Action Unit} (h : a.Bypasses) : (Action.attempt a).Bypasses :=
  ⟨fun s ↦ by rw [after_attempt, h.cache], fun s ↦ by rw [after_attempt, h.lifetimes]⟩

theorem notify (recipient actor : Int) (tweet : Option Int) (kind : NotificationKind) :
    (Action.notify recipient actor tweet kind).Bypasses := by
  rw [Action.notify]
  split
  · exact (Looks.pure _).bypasses
  · exact attempt <| (change _).bind fun n ↦ ⟨fun _ ↦ rfl, fun _ ↦ rfl⟩

theorem recordTags (tweet : Int) (tags : List String) :
    (Action.recordTags tweet tags).Bypasses := by
  induction tags with
  | nil => exact (Looks.pure _).bypasses
  | cons tag tags ih =>
    have hupsert : (Action.upsertTag tag).Bypasses :=
      (change _).bind fun _ ↦ (Looks.ask _).bypasses
    have htag : (Action.recordTag tweet tag).Bypasses :=
      attempt <| hupsert.bind fun _ ↦ change _
    exact htag.bind fun _ ↦ ih

/-! The requests that write. -/

theorem createTweet (user : Int) (content : Option String) (parent : Option Int) :
    (Action.createTweet user content parent).Bypasses := by
  have htagged : ∀ (t : Tweet) (content : String), (do
      Action.recordTags t.id (Text.hashtags content)
      Action.getTweet t.id (some user) : Action Item).Bypasses := fun t content ↦
    (recordTags _ _).bind fun _ ↦ (Looks.getTweet _ _).bypasses
  refine (Looks.orFail _ _).bypasses.bind fun content ↦ ?_
  refine (Looks.requireActor _).bypasses.bind fun _ ↦ ?_
  cases parent with
  | none =>
    refine (Looks.pure _).bypasses.bind fun answered ↦ (change _).bind fun t ↦ ?_
    cases answered with
    | none => exact htagged t content
    | some answered => exact (notify _ _ _ _).bind fun _ ↦ htagged t content
  | some id =>
    refine (Looks.requireTweet id).bypasses.bind fun _ ↦ ?_
    refine (Looks.pure _).bypasses.bind fun answered ↦ (change _).bind fun t ↦ ?_
    cases answered with
    | none => exact htagged t content
    | some answered => exact (notify _ _ _ _).bind fun _ ↦ htagged t content

theorem deleteTweet (user tweet : Int) : (Action.deleteTweet user tweet).Bypasses := by
  refine (Looks.requireTweet tweet).bypasses.bind fun t ↦ ?_
  dsimp only
  split
  · exact Looks.fail_bind.bypasses
  · split
    · exact (change _).bind fun _ ↦ (Looks.pure _).bypasses
    · exact (change _).bind fun _ ↦ (Looks.pure _).bypasses

theorem like (user tweet : Int) : (Action.like user tweet).Bypasses := by
  refine (Looks.requireActor _).bypasses.bind fun _ ↦ ?_
  refine (Looks.requireTweet _).bypasses.bind fun t ↦ (change _).bind fun added ↦ ?_
  split
  · exact notify _ _ _ _
  · exact (Looks.pure _).bypasses

theorem unlike (user tweet : Int) : (Action.unlike user tweet).Bypasses :=
  (change _).bind fun _ ↦ (Looks.pure _).bypasses

theorem retweet (user tweet : Int) : (Action.retweet user tweet).Bypasses := by
  refine (Looks.requireActor _).bypasses.bind fun _ ↦ ?_
  refine (Looks.resolve _).bypasses.bind fun target ↦ (change _).bind fun record ↦ ?_
  refine (Looks.orFail _ _).bypasses.bind fun record ↦ (notify _ _ _ _).bind fun _ ↦ ?_
  exact (Looks.getTweet _ _).bypasses

theorem undoRetweet (user tweet : Int) : (Action.undoRetweet user tweet).Bypasses := by
  refine (Looks.resolve _).bypasses.bind fun target ↦ (change _).bind fun _ ↦ ?_
  exact (Looks.pure _).bypasses

theorem updateProfile (id : Int) (displayName bio : Option String) :
    (Action.updateProfile id displayName bio).Bypasses := by
  refine (Looks.ask _).bypasses.bind fun _ ↦ (Looks.orFail _ _).bypasses.bind fun user ↦ ?_
  refine bind ((change _).bind fun written ↦ ?_) fun _ ↦ (Looks.orFail _ _).bypasses
  split
  · exact (Looks.ask _).bypasses
  · exact (Looks.pure _).bypasses

theorem follow (follower target : Int) : (Action.follow follower target).Bypasses := by
  rw [Action.follow]
  dsimp only
  split
  · exact Looks.fail_bind.bypasses
  · refine (Looks.requireActor _).bypasses.bind fun _ ↦ (Looks.ask _).bypasses.bind fun _ ↦ ?_
    refine (Looks.orFail _ _).bypasses.bind fun _ ↦ (change _).bind fun added ↦ ?_
    split
    · exact (notify _ _ _ _).bind fun _ ↦ (Looks.pure _).bypasses
    · exact (Looks.pure _).bypasses

theorem unfollow (follower target : Int) : (Action.unfollow follower target).Bypasses :=
  (change _).bind fun _ ↦ (Looks.pure _).bypasses

theorem markRead (user : Int) : (Action.markRead user).Bypasses := change _

end Bypasses

/-! ## Requests that go through the cache -/

section Cached

variable {decode : Decoder (List α)} {encode : α → Json} {key : String}
  {lifetime : Lifetimes → Nat} {compute : Action (List α)} {s : Social}

theorem answer_lookUp (decode : Decoder α) (key : String) (s : Social) :
    (lookUp decode key).answer s = .ok (s.cache.bind (·.get? decode s.now key)) := rfl

/-- What is in the cache is the answer. -/
theorem cached_of_some {found : List α} (h : s.cache.bind (·.get? decode s.now key) = some found) :
    (cached decode encode key lifetime compute).answer s = .ok found ∧
      (cached decode encode key lifetime compute).after s = s := by
  rw [cached, answer_bind, after_bind, answer_lookUp, h]
  exact ⟨rfl, rfl⟩

/-- What is not in the cache is computed, and if it is not empty, kept. -/
theorem cached_of_none (hcompute : compute.after s = s)
    (h : s.cache.bind (·.get? decode s.now key) = none) :
    (cached decode encode key lifetime compute).answer s = compute.answer s ∧
      ((cached decode encode key lifetime compute).after s = s ∨
        ∃ found, compute.answer s = .ok found ∧ found ≠ [] ∧
          (cached decode encode key lifetime compute).after s =
            (remember key (.list (found.map encode)) (lifetime s.lifetimes)).after s) := by
  rw [cached, answer_bind, after_bind, answer_lookUp, h]
  simp only [Except.bind, Except.toOption, Option.elim_some]
  rw [answer_bind, after_bind]
  have hafter : (lookUp decode key).after s = s := rfl
  rw [hafter, hcompute]
  cases hfound : compute.answer s with
  | error e => exact ⟨rfl, .inl rfl⟩
  | ok found =>
    cases found with
    | nil => exact ⟨rfl, .inl rfl⟩
    | cons a found => exact ⟨rfl, .inr ⟨a :: found, rfl, List.cons_ne_nil _ _, rfl⟩⟩

/-- Where there is no cache, nothing is found in it and nothing is kept. -/
theorem cached_of_uncached (hcompute : compute.after s = s) (h : s.cache = none) :
    (cached decode encode key lifetime compute).answer s = compute.answer s ∧
      (cached decode encode key lifetime compute).after s = s := by
  have hmiss : s.cache.bind (·.get? decode s.now key) = none := by rw [h]; rfl
  refine (cached_of_none hcompute hmiss).imp_right fun hafter ↦ hafter.elim id ?_
  rintro ⟨found, -, -, hkept⟩
  rw [hkept]
  show { s with cache := s.cache.map _ } = s
  rw [h]
  cases s
  cases h
  rfl

end Cached

end Action

/-! ## Where the entries come from -/

/-- The entry of a key, put into the cache at a moment of the past: it holds what the key stands for
as it was at that moment, and that is not empty. -/
inductive CacheEntry.From (past : Social → Prop) (lifetimes : Lifetimes) :
    String → CacheEntry → Prop
  | feed {p : Social} {page : Page} {rows : List SeenTweet} (hp : past p)
      (hrows : Store.globalFeed page none p.store = .ok rows) (hne : rows ≠ []) :
      From past lifetimes (Cache.feedKey page.page page.size)
        ⟨(Json.list (rows.map SeenTweet.toJson)).render, p.now, lifetimes.feed⟩
  | trending {p : Social} {limit : Int} {tags : List Hashtag} (hp : past p)
      (htags : (Action.freshTrending limit).answer p = .ok tags) (hne : tags ≠ []) :
      From past lifetimes (Cache.trendingKey limit)
        ⟨(Json.list (tags.map Hashtag.toJson)).render, p.now, lifetimes.trending⟩

namespace CacheEntry.From

variable {past : Social → Prop} {lifetimes : Lifetimes} {e : CacheEntry}

/-- An entry under the key of a page is one of that page. -/
theorem of_feedKey {page : Page}
    (h : e.From past lifetimes (Cache.feedKey page.page page.size)) :
    ∃ p rows, past p ∧ Store.globalFeed page none p.store = .ok rows ∧
      e = ⟨(Json.list (rows.map SeenTweet.toJson)).render, p.now, lifetimes.feed⟩ := by
  generalize hkey : Cache.feedKey page.page page.size = key at h
  cases h with
  | trending => exact absurd hkey (Cache.feedKey_ne_trendingKey _ _ _)
  | @feed p page' rows hp hrows _ =>
    obtain ⟨hpage, hsize⟩ := Cache.feedKey_injective hkey
    obtain rfl : page = page' := by cases page; cases page'; cases hpage; cases hsize; rfl
    exact ⟨p, rows, hp, hrows, rfl⟩

/-- An entry under the key of a limit is one of that limit. -/
theorem of_trendingKey {limit : Int} (h : e.From past lifetimes (Cache.trendingKey limit)) :
    ∃ p tags, past p ∧ (Action.freshTrending limit).answer p = .ok tags ∧
      e = ⟨(Json.list (tags.map Hashtag.toJson)).render, p.now, lifetimes.trending⟩ := by
  generalize hkey : Cache.trendingKey limit = key at h
  cases h with
  | feed => exact absurd hkey.symm (Cache.feedKey_ne_trendingKey _ _ _)
  | @trending p limit' tags hp htags _ =>
    obtain rfl : limit = limit' := Cache.trendingKey_injective hkey
    exact ⟨p, tags, hp, htags, rfl⟩

end CacheEntry.From

/-- All that the cache holds was put there at moments of the past. -/
structure Social.Remembers (past : Social → Prop) (lifetimes : Lifetimes) (s : Social) : Prop where
  lifetimes_eq : s.lifetimes = lifetimes
  entries : ∀ c, s.cache = some c → ∀ key e, c.entries.get? key = some e →
    e.From past lifetimes key

namespace Social

namespace Remembers

variable {past past' : Social → Prop} {lifetimes : Lifetimes} {s s' : Social}

theorem mono (hpast : ∀ p, past p → past' p) (h : s.Remembers past lifetimes) :
    s.Remembers past' lifetimes where
  lifetimes_eq := h.lifetimes_eq
  entries c hc key e he := by
    cases h.entries c hc key e he with
    | feed hp hrows hne => exact .feed (hpast _ hp) hrows hne
    | trending hp htags hne => exact .trending (hpast _ hp) htags hne

theorem of_eq (h : s.Remembers past lifetimes) (hcache : s'.cache = s.cache)
    (hlifetimes : s'.lifetimes = s.lifetimes) : s'.Remembers past lifetimes where
  lifetimes_eq := hlifetimes.trans h.lifetimes_eq
  entries := by rw [hcache]; exact h.entries

theorem bypass {α : Type} {a : Action α} (ha : a.Bypasses) (h : s.Remembers past lifetimes) :
    (a.after s).Remembers past lifetimes :=
  h.of_eq (ha.cache s) (ha.lifetimes s)

/-- A value that is put into the cache now was what its key stands for now. -/
theorem remember (h : s.Remembers past lifetimes) {key : String} {value : Json} {lifetime : Nat}
    (hentry : CacheEntry.From past lifetimes key ⟨value.render, s.now, lifetime⟩) :
    ((Action.remember key value lifetime).after s).Remembers past lifetimes where
  lifetimes_eq := h.lifetimes_eq
  entries c hc key' e he := by
    obtain ⟨old, hold, rfl⟩ := Option.map_eq_some_iff.1 hc
    rw [Cache.put, Keyed.get?_put] at he
    split at he
    · rename_i hkey
      rw [hkey, ← Option.some.inj he]
      exact hentry
    · exact h.entries old hold key' e he

theorem feedRows (hs : past s) (h : s.Remembers past lifetimes) (page : Page) :
    ((Action.feedRows page none).after s).Remembers past lifetimes := by
  rw [Action.feedRows]
  cases hfound : s.cache.bind (·.get? (Draft.asList SeenTweet.decode) s.now
      (Cache.feedKey page.page page.size)) with
  | some found => rw [(Action.cached_of_some hfound).2]; exact h
  | none =>
    rcases (Action.cached_of_none (Action.after_ask s _) hfound).2 with
      hafter | ⟨rows, hrows, hne, hafter⟩
    · rw [hafter]; exact h
    · rw [hafter]
      refine h.remember ?_
      rw [h.lifetimes_eq]
      exact .feed hs ((Action.answer_ask_eq_ok_iff s).1 hrows) hne

theorem globalFeed (hs : past s) (h : s.Remembers past lifetimes) (page : Page) :
    ((Action.globalFeed page none).after s).Remembers past lifetimes := by
  have hrows := h.feedRows hs page
  rw [Action.globalFeed, Action.after_bind]
  cases ((Action.feedRows page none).answer s).toOption with
  | none => exact hrows
  | some rows => exact hrows.bypass (Action.Looks.items none rows).bypasses

theorem trending (hs : past s) (h : s.Remembers past lifetimes) (limit : Int) :
    ((Action.trending limit).after s).Remembers past lifetimes := by
  rw [Action.trending]
  cases hfound : s.cache.bind (·.get? (Draft.asList Hashtag.decode) s.now
      (Cache.trendingKey limit)) with
  | some found => rw [(Action.cached_of_some hfound).2]; exact h
  | none =>
    rcases (Action.cached_of_none (Action.after_freshTrending limit s) hfound).2 with
      hafter | ⟨tags, htags, hne, hafter⟩
    · rw [hafter]; exact h
    · rw [hafter]
      refine h.remember ?_
      rw [h.lifetimes_eq]
      exact .trending hs htags hne

/-- **Every operation leaves a cache all of which comes from the past.** -/
theorem perform (hs : past s) (h : s.Remembers past lifetimes) (op : Operation) :
    (s.perform op).Remembers past lifetimes := by
  cases hlooks : op.looks with
  | true => rw [perform_of_looks hlooks]; exact h
  | false =>
    cases op with
    | createUser new => exact h.bypass (.change _)
    | createTweet user content parent => exact h.bypass (.createTweet user content parent)
    | deleteTweet user tweet => exact h.bypass (.deleteTweet user tweet)
    | like user tweet => exact h.bypass (.like user tweet)
    | unlike user tweet => exact h.bypass (.unlike user tweet)
    | retweet user tweet => exact h.bypass (.retweet user tweet)
    | undoRetweet user tweet => exact h.bypass (.undoRetweet user tweet)
    | follow follower target => exact h.bypass (.follow follower target)
    | unfollow follower target => exact h.bypass (.unfollow follower target)
    | updateProfile user name bio => exact h.bypass (.updateProfile user name bio)
    | markRead user => exact h.bypass (.markRead user)
    | globalFeed page viewer =>
      obtain rfl : viewer = none :=
        Option.isNone_iff_eq_none.1 (Option.isSome_eq_false_iff.1 hlooks)
      exact h.globalFeed hs page
    | trending limit => exact h.trending hs limit
    | subscribe _ | receive _ | unsubscribe _ | drop _ => exact h.of_eq rfl rfl
    | advance ns => exact h.of_eq rfl rfl
    | _ => cases hlooks

end Remembers

/-! ## Runs -/

/-- All that the cache of a run holds was put there in the run. -/
theorem run_remembers (capacity : Nat) (cached : Bool) (lifetimes : Lifetimes)
    (ops : List Operation) : ((start capacity cached lifetimes).run ops).Remembers
      (Moment (start capacity cached lifetimes) ops) lifetimes := by
  induction ops using List.reverseRecOn with
  | nil =>
    refine ⟨rfl, fun c hc key e he ↦ ?_⟩
    cases cached with
    | false => cases hc
    | true =>
      obtain rfl := Option.some.inj hc
      cases he
  | append_singleton ops op ih =>
    rw [run_append]
    refine Remembers.perform ⟨ops, List.prefix_append ops [op], rfl⟩ (ih.mono ?_) op
    rintro p ⟨done, hdone, hp⟩
    exact ⟨done, hdone.trans (List.prefix_append ops [op]), hp⟩

end Social

end Microblog
