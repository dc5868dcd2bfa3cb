import Microblog.Proofs.Social.Caching

/-!
# Requests that share no entry of the cache

A `Query` is a request that goes through the cache.  It has one entry there, which it finds by its
key, and no two queries have the same key (`Query.key_injective`).

* What a query answers depends on no entry but its own (`Query.answer_eq`).
* A query writes to no entry but its own (`Query.agreesOn_perform`).

So a query is answered the same, however many others were made before it (`Query.separate`).  Both
halves speak of states that differ in the cache only, and there not at a given key
(`Social.AgreesOn`).
-/

set_option autoImplicit false

namespace Microblog

/-! ## Queries -/

/-- A request that goes through the cache. -/
inductive Query where
  /-- A page of the feed of everybody, for those who are no viewer. -/
  | feed (page : Page)
  | trending (limit : Int)
deriving DecidableEq, Repr

namespace Query

/-- The key of the entry that a query has in the cache. -/
def key : Query → String
  | feed page => Cache.feedKey page.page page.size
  | trending limit => Cache.trendingKey limit

/-- The query as an operation. -/
def operation : Query → Operation
  | feed page => .globalFeed page none
  | trending limit => .trending limit

/-- What a query answers: the items of a page, or hashtags. -/
def answer (s : Social) : Query → Except Failure (List Item ⊕ List Hashtag)
  | feed page => ((Action.globalFeed page none).answer s).map .inl
  | trending limit => ((Action.trending limit).answer s).map .inr

/-- **Different queries have different keys.** -/
theorem key_injective : Function.Injective key := by
  intro q q' h
  cases q with
  | feed page =>
    cases q' with
    | feed page' =>
      obtain ⟨hpage, hsize⟩ := Cache.feedKey_injective h
      cases page
      cases page'
      cases hpage
      cases hsize
      rfl
    | trending limit => exact absurd h (Cache.feedKey_ne_trendingKey _ _ _)
  | trending limit =>
    cases q' with
    | feed page => exact absurd h.symm (Cache.feedKey_ne_trendingKey _ _ _)
    | trending limit' => exact congrArg trending (Cache.trendingKey_injective h)

end Query

/-! ## States that differ in the cache -/

namespace Social

/-- The entry of a key, if there is a cache and it has one. -/
def entryOf? (s : Social) (key : String) : Option CacheEntry := s.cache.bind (·.entries.get? key)

/-- The states differ in the cache only, and there not at the key. -/
structure AgreesOn (key : String) (s s' : Social) : Prop where
  rest : s' = { s with cache := s'.cache }
  entry : s'.entryOf? key = s.entryOf? key

namespace AgreesOn

variable {key : String} {s s' s'' : Social}

theorem refl (key : String) (s : Social) : AgreesOn key s s := ⟨rfl, rfl⟩

theorem trans (h : AgreesOn key s s') (h' : AgreesOn key s' s'') : AgreesOn key s s'' where
  rest := by rw [h'.rest, h.rest]
  entry := h'.entry.trans h.entry

theorem store_eq (h : AgreesOn key s s') : s.store = s'.store := by rw [h.rest]

theorem now_eq (h : AgreesOn key s s') : s.now = s'.now := by rw [h.rest]

/-- What is found under the key is the same. -/
theorem found_eq (h : AgreesOn key s s') {α : Type} (decode : Decoder α) :
    s'.cache.bind (·.get? decode s'.now key) = s.cache.bind (·.get? decode s.now key) := by
  have hfound : ∀ s : Social, s.cache.bind (·.get? decode s.now key) =
      ((s.entryOf? key).filter (·.isLive s.now)).bind fun e ↦ (decode.parse e.json).toOption := by
    intro s
    rw [entryOf?]
    cases s.cache with
    | none => rfl
    | some c => exact Cache.get?_eq_bind
  rw [hfound, hfound, h.entry, h.now_eq]

end AgreesOn

end Social

namespace Action

variable {α : Type} {decode : Decoder (List α)} {encode : α → Json} {key : String}
  {lifetime : Lifetimes → Nat} {compute : Action (List α)} {s s' : Social}

/-- What is answered through the cache depends on the entry of its key, and on what the computation
depends on. -/
theorem answer_cached_eq (h : s.AgreesOn key s') (hafter : ∀ s, compute.after s = s)
    (hcompute : compute.answer s' = compute.answer s) :
    (cached decode encode key lifetime compute).answer s' =
      (cached decode encode key lifetime compute).answer s := by
  have hfound := h.found_eq decode
  cases hs : s.cache.bind (·.get? decode s.now key) with
  | some found =>
    rw [(cached_of_some hs).1, (cached_of_some (hfound.trans hs)).1]
  | none =>
    rw [(cached_of_none (hafter s) hs).1, (cached_of_none (hafter s') (hfound.trans hs)).1,
      hcompute]

/-- What is answered through the cache is kept under its key, if at all. -/
theorem agreesOn_cached {key' : String} (hkey : key' ≠ key) (hafter : compute.after s = s) :
    s.AgreesOn key' ((cached decode encode key lifetime compute).after s) := by
  cases hs : s.cache.bind (·.get? decode s.now key) with
  | some found =>
    rw [(cached_of_some hs).2]
    exact .refl _ _
  | none =>
    rcases (cached_of_none hafter hs).2 with hsame | ⟨found, -, -, hkept⟩
    · rw [hsame]
      exact .refl _ _
    · rw [hkept]
      refine ⟨rfl, ?_⟩
      show (s.cache.map _).bind _ = s.cache.bind _
      cases s.cache with
      | none => rfl
      | some c => exact Keyed.get?_put_of_ne hkey

end Action

namespace Query

variable {s s' : Social}

/-- The hashtags are counted in the store, at the time that it is. -/
theorem answer_freshTrending_eq {key : String} (h : s.AgreesOn key s') (limit : Int) :
    (Action.freshTrending limit).answer s' = (Action.freshTrending limit).answer s := by
  rw [Action.freshTrending, Action.answer_get_bind, Action.answer_get_bind, h.now_eq]
  refine (Action.Looks.bind (.ask _) fun found ↦ ?_).answer _ _ h.store_eq.symm
  split
  · exact .ask _
  · exact .pure _

/-- **What a query answers depends on no entry but its own.** -/
theorem answer_eq {q : Query} (h : s.AgreesOn q.key s') : q.answer s' = q.answer s := by
  cases q with
  | feed page =>
    have hrows : (Action.feedRows page none).answer s' = (Action.feedRows page none).answer s :=
      Action.answer_cached_eq h (fun s ↦ Action.after_ask s _)
        ((Action.Looks.ask _).answer _ _ h.store_eq.symm)
    have hstore : ∀ s : Social, ((Action.feedRows page none).after s).store = s.store :=
      (Action.Keeps.cached (Action.Looks.ask _).keeps).store
    refine congrArg (Except.map _) ?_
    rw [Action.globalFeed, Action.answer_bind, Action.answer_bind, hrows]
    refine congrArg _ (funext fun rows ↦ ?_)
    refine (Action.Looks.items none rows).answer _ _ ?_
    rw [hstore, hstore, h.store_eq]
  | trending limit =>
    exact congrArg (Except.map _) (Action.answer_cached_eq h (Action.after_freshTrending limit)
      (answer_freshTrending_eq h limit))

/-- **A query writes to no entry but its own.** -/
theorem agreesOn_perform {q q' : Query} (hne : q ≠ q') (s : Social) :
    s.AgreesOn q.key (s.perform q'.operation) := by
  have hkey : q.key ≠ q'.key := fun h ↦ hne (key_injective h)
  cases q' with
  | feed page =>
    have hrows : s.AgreesOn q.key ((Action.feedRows page none).after s) :=
      Action.agreesOn_cached hkey (Action.after_ask s _)
    -- filling in the rows only looks
    have hafter : s.perform (feed page).operation = (Action.feedRows page none).after s :=
      Action.part_after_bind_first s id fun rows s ↦ (Action.Looks.items none rows).after s
    rw [hafter]
    exact hrows
  | trending limit => exact Action.agreesOn_cached hkey (Action.after_freshTrending limit s)

/-- However many other queries are made, they leave the entry of a query alone. -/
theorem agreesOn_run {q : Query} {qs : List Query} (h : q ∉ qs) (s : Social) :
    s.AgreesOn q.key (s.run (qs.map operation)) := by
  induction qs generalizing s with
  | nil => exact .refl _ _
  | cons q' qs ih =>
    obtain ⟨hne, hrest⟩ := not_or.1 (mt List.mem_cons.2 h)
    exact (agreesOn_perform hne s).trans (ih hrest (s.perform q'.operation))

/-- **No two queries share an entry of the cache**: neither pages nor limits nor a page and a limit
have the same key, and in any state the entry and the answer of a query are the same before and
after any others. -/
theorem separate :
    (∀ page size page' size' : Int,
      Cache.feedKey page size = Cache.feedKey page' size' → page = page' ∧ size = size') ∧
    (∀ limit limit' : Int, Cache.trendingKey limit = Cache.trendingKey limit' → limit = limit') ∧
    (∀ page size limit : Int, Cache.feedKey page size ≠ Cache.trendingKey limit) ∧
    ∀ (s : Social) (q : Query) (qs : List Query), q ∉ qs →
      (s.run (qs.map operation)).entryOf? q.key = s.entryOf? q.key ∧
        q.answer (s.run (qs.map operation)) = q.answer s := by
  refine ⟨fun _ _ _ _ h ↦ Cache.feedKey_injective h, fun _ _ h ↦ Cache.trendingKey_injective h,
    Cache.feedKey_ne_trendingKey, fun s q qs h ↦ ?_⟩
  have hagrees := agreesOn_run h s
  exact ⟨hagrees.entry, answer_eq hagrees⟩

/-- Ada has posted, and somebody has looked at the feed. -/
def sampleFeed : Social :=
  (Social.start 1 true ⟨30, 300⟩).run [.createUser { username := "ada", email := "ada@x.org" },
    .createTweet 1 (some "#hi") none, (feed ⟨0, 20⟩).operation]

/-- The page that was looked at stays in the cache as it is when another page and some trending
hashtags are asked for, whose numbers have the same digits. -/
theorem separate_same_digits : feed ⟨0, 20⟩ ∉ [feed ⟨0, 2⟩, trending 20] ∧
    sampleFeed.entryOf? (feed ⟨0, 20⟩).key ≠ none ∧
    (sampleFeed.run ([feed ⟨0, 2⟩, trending 20].map operation)).entryOf? (feed ⟨0, 20⟩).key =
      sampleFeed.entryOf? (feed ⟨0, 20⟩).key := by
  have hothers : feed ⟨0, 20⟩ ∉ [feed ⟨0, 2⟩, trending 20] := by decide
  exact ⟨hothers, by decide +kernel, (separate.2.2.2 sampleFeed _ _ hothers).1⟩

end Query

end Microblog
