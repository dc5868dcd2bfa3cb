import Mathlib.Data.Prod.Lex
import Mathlib.Data.String.Basic
import Microblog.Proofs.Page
import Microblog.Proofs.Store.Lookup

/-!
# Listings

Behind every listing is a list of rows that are sorted before a page is cut out of them.  There is
one section here for each kind of row: which rows are listed (`mem_…`), that they stand in a strict
order, so that none is listed twice (`pairwise_…`), that they are no more than there are numbers
(`length_…_le`), and that the statement gives the rows of the page, each as it is shown to the
viewer (`…_eq_ok`).

Rows are compared by a rank, which is a number or a pair of a count or a time and a number.  Their
order is strict because no two of them have the same rank (`pairwise_mergeSort_of_rank`).
-/

set_option autoImplicit false

namespace Microblog

open Text

/-! ## Sorting -/

section Sorting

variable {α : Type} {le : α → α → Bool} {l : List α}

/-- Rows of different ranks that are sorted by rank stand in a strict order. -/
theorem pairwise_mergeSort_of_rank {ι : Type} [LinearOrder ι] (rank : α → ι)
    (hle : ∀ a ∈ l, ∀ b ∈ l, le a b = true ↔ rank a ≤ rank b)
    (hne : l.Pairwise fun a b ↦ rank a ≠ rank b) :
    (l.mergeSort le).Pairwise fun a b ↦ rank a < rank b := by
  -- how rows compare that are not among these does not matter
  have hsame : l.mergeSort le = l.mergeSort fun a b ↦ decide (rank a ≤ rank b) := by
    simpa using List.map_mergeSort (f := id) fun a ha b hb ↦
      Bool.eq_iff_iff.2 ((hle a ha b hb).trans decide_eq_true_iff.symm)
  have hsorted : (l.mergeSort fun a b ↦ decide (rank a ≤ rank b)).Pairwise fun a b ↦
      decide (rank a ≤ rank b) = true := by
    refine List.pairwise_mergeSort (fun a b c hab hbc ↦ ?_) (fun a b ↦ ?_) l
    · exact decide_eq_true ((of_decide_eq_true hab).trans (of_decide_eq_true hbc))
    · rw [Bool.or_eq_true, decide_eq_true_eq, decide_eq_true_eq]
      exact le_total _ _
  have hstill : (l.mergeSort fun a b ↦ decide (rank a ≤ rank b)).Pairwise fun a b ↦
      rank a ≠ rank b :=
    ((List.mergeSort_perm _ _).pairwise_iff fun hab ↦ Ne.symm hab).2 hne
  rw [hsame]
  exact (hsorted.and hstill).imp fun h ↦ lt_of_le_of_ne (of_decide_eq_true h.1) h.2

/-- Rows of a table differ in their keys. -/
theorem Rows.pairwise_key_ne {κ : Type} [Row α κ] (rows : Rows α) (p : α → Bool) :
    (rows.list.filter p).Pairwise fun a b ↦ Row.key a ≠ Row.key b :=
  List.pairwise_map.1 (rows.nodup.sublist (List.filter_sublist.map _))

end Sorting

/-- Of two accounts the first has more followers, or as many and the lower number. -/
def StoredUser.Outranks (u v : StoredUser) : Prop :=
  ∃ m n : Int, u.followersCount = .int m ∧ v.followersCount = .int n ∧
    (n < m ∨ m = n ∧ u.id < v.id)

/-- Of two follows the first is later, or as late and of the account with the greater number. -/
def Follow.Later (e e' : Follow × StoredUser) : Prop :=
  e'.1.createdAt < e.1.createdAt ∨ e.1.createdAt = e'.1.createdAt ∧ e'.2.id < e.2.id

namespace Store

variable {s : Store} {viewer : Option Int}

/-- Rows each of which can be shown are shown one by one. -/
theorem mapM_eq_ok_forall₂ {ε α β : Type} {f : α → Except ε β} {as : List α}
    (h : ∀ a ∈ as, ∃ b, f a = .ok b) :
    ∃ bs, as.mapM f = .ok bs ∧ List.Forall₂ (fun a b ↦ f a = .ok b) as bs :=
  (mapM_eq_ok h).imp fun _ hbs ↦ ⟨hbs, forall₂_of_mapM hbs⟩

/-- Pages that show one window each show, one after the other, the rows from the first on. -/
theorem mapM_windows_eq_ok {ε α β : Type} {f : Nat → Except ε (List β)} {shows : α → β → Prop}
    {rows : List α} {n size : Nat} (h : ∀ i ∈ List.range n, ∃ found, f i = .ok found ∧
      List.Forall₂ shows ((rows.drop (i * size)).take size) found) :
    ∃ pages, (List.range n).mapM f = .ok pages ∧
      List.Forall₂ shows (rows.take (n * size)) pages.flatten := by
  obtain ⟨pages, hpages, hself⟩ := mapM_eq_ok_forall₂ fun i hi ↦ (h i hi).imp fun _ ↦ And.left
  have heach : List.Forall₂ (fun i found ↦ List.Forall₂ shows ((rows.drop (i * size)).take size)
      found) (List.range n) pages := by
    refine ((List.forall₂_and_left _ _).2 ⟨fun i hi ↦ hi, hself⟩).imp fun i found ⟨hi, hfound⟩ ↦ ?_
    obtain ⟨found', hfound', hshown⟩ := h i hi
    obtain rfl := Except.ok.inj (hfound'.symm.trans hfound)
    exact hshown
  refine ⟨pages, hpages, ?_⟩
  rw [← flatten_windows]
  exact List.rel_flatten (List.forall₂_map_left_iff.2 heach)

/-! ## Tweets -/

/-- The tweets that satisfy `p`, the newest first. -/
def newest (s : Store) (p : StoredTweet → Bool) : List StoredTweet :=
  (s.tweets.list.filter p).mergeSort StoredTweet.isNewer

/-- The tweets that satisfy `p`, the oldest first. -/
def oldest (s : Store) (p : StoredTweet → Bool) : List StoredTweet :=
  (s.tweets.list.filter p).mergeSort StoredTweet.isOlder

theorem mem_newest {p : StoredTweet → Bool} {t : StoredTweet} :
    t ∈ s.newest p ↔ t ∈ s.tweets.list ∧ p t = true :=
  List.mem_mergeSort.trans List.mem_filter

theorem mem_oldest {p : StoredTweet → Bool} {t : StoredTweet} :
    t ∈ s.oldest p ↔ t ∈ s.tweets.list ∧ p t = true :=
  List.mem_mergeSort.trans List.mem_filter

/-- Of two tweets the later one in the listing is the older one; so none is listed twice. -/
theorem pairwise_newest (s : Store) (p : StoredTweet → Bool) :
    (s.newest p).Pairwise fun t u ↦ u.id < t.id :=
  pairwise_mergeSort_of_rank (fun t : StoredTweet ↦ OrderDual.toDual t.id)
    (fun _ _ _ _ ↦ decide_eq_true_iff) (s.tweets.pairwise_key_ne p)

/-- Of two tweets the later one in the listing is the newer one. -/
theorem pairwise_oldest (s : Store) (p : StoredTweet → Bool) :
    (s.oldest p).Pairwise fun t u ↦ t.id < u.id :=
  pairwise_mergeSort_of_rank StoredTweet.id (fun _ _ _ _ ↦ decide_eq_true_iff)
    (s.tweets.pairwise_key_ne p)

/-- To leave rows out of a listing is to list the others. -/
theorem filter_newest (s : Store) (p q : StoredTweet → Bool) :
    (s.newest p).filter q = s.newest fun t ↦ q t && p t := by
  have hperm : ((s.newest p).filter q).Perm (s.newest fun t ↦ q t && p t) := by
    have hleft : ((s.newest p).filter q).Perm ((s.tweets.list.filter p).filter q) :=
      (List.mergeSort_perm _ _).filter q
    rw [List.filter_filter] at hleft
    exact hleft.trans (List.mergeSort_perm _ _).symm
  exact hperm.eq_of_pairwise (fun t u _ _ htu hut ↦ absurd htu (lt_asymm hut))
    ((s.pairwise_newest p).filter q) (s.pairwise_newest _)

namespace Readable

theorem length_listed_le (h : s.Readable) (p : StoredTweet → Bool)
    (order : StoredTweet → StoredTweet → Bool) :
    (((s.tweets.list.filter p).mergeSort order).length : Int) ≤ Decimal.greatest := by
  rw [List.length_mergeSort, ← List.countP_eq_length_filter]
  exact (h.grounded.fits_tweets p).2

theorem length_newest_le (h : s.Readable) (p : StoredTweet → Bool) :
    ((s.newest p).length : Int) ≤ Decimal.greatest :=
  h.length_listed_le p _

/-- A listing of tweets shows the rows of its page. -/
theorem listTweets_shows (h : s.Readable) (task : String) (p : StoredTweet → Bool)
    (order : StoredTweet → StoredTweet → Bool) (page : Page) (viewer : Option Int) :
    ∃ rows, s.listTweets task p order page viewer = .ok rows ∧
      List.Forall₂ (fun t row ↦ s.seeTweet viewer t = .ok row)
        (page.of ((s.tweets.list.filter p).mergeSort order)) rows := by
  obtain ⟨rows, hrows⟩ := h.listTweets_eq_ok task p order page viewer
  refine ⟨rows, hrows, ?_⟩
  rw [listTweets, during_eq_ok_iff, bind_eq_ok_iff] at hrows
  obtain ⟨-, -, hrows⟩ := hrows
  exact forall₂_of_mapM hrows

/-- A search by words is the listing of the tweets that match all of them, unless there are too many
words or a text is to be held against a pattern that is too long. -/
theorem tweetsByTerms_eq (h : s.Readable) {terms : List String} (hne : terms ≠ [])
    (hcount : terms.length < maxTerms)
    (hfits : ∀ t ∈ s.tweets.list, ∀ c, t.content = some c →
      reachesTooLong c.toList (terms.map Pattern.containing) = false)
    (page : Page) (viewer : Option Int) :
    s.tweetsByTerms terms page viewer = s.listTweets "search tweets"
      (fun t ↦ t.content.any fun c ↦ (terms.map Pattern.containing).all (Pattern.like c.toList ·))
      StoredTweet.isNewer page viewer := by
  have htexts : ∀ text ∈ s.tweets.list.filterMap fun t ↦ t.content.map String.toList,
      ¬reachesTooLong text (terms.map Pattern.containing) = true := by
    intro text htext
    obtain ⟨t, ht, hcontent⟩ := List.mem_filterMap.1 htext
    obtain ⟨c, hc, rfl⟩ := Option.map_eq_some_iff.1 hcontent
    exact Bool.eq_false_iff.1 (hfits t ht c hc)
  have hempty : terms.isEmpty = false := by simpa using hne
  rw [tweetsByTerms, hempty]
  dsimp only
  rw [requireSeen, h.equipped.require, (demand_eq_ok_iff (u := ())).2 hcount,
    (demand_eq_ok_iff (u := ())).2 (.inr htexts)]
  rfl

theorem tweetsByHashtag_eq (h : s.Readable) (tag : String) (page : Page) (viewer : Option Int) :
    s.tweetsByHashtag tag page viewer = s.listTweets "search tweets by hashtag"
      (fun t ↦ (s.tagNames t.id).contains tag) StoredTweet.isNewer page viewer := by
  rw [tweetsByHashtag, h.equipped.require]
  rfl

end Readable

/-! ## Accounts -/

/-- The accounts that satisfy `p`, the most followed first. -/
def mostFollowed (s : Store) (p : StoredUser → Bool) : List StoredUser :=
  (s.users.list.filter p).mergeSort StoredUser.precedes

theorem mem_mostFollowed {p : StoredUser → Bool} {u : StoredUser} :
    u ∈ s.mostFollowed p ↔ u ∈ s.users.list ∧ p u = true :=
  List.mem_mergeSort.trans List.mem_filter

theorem stored_of_mem_page (p : StoredUser → Bool) (page : Page) :
    ∀ u ∈ page.of (s.mostFollowed p), u ∈ s.users.list := fun _ hu ↦
  (mem_mostFollowed.1 (mem_of_mem_page hu)).1

namespace Readable

/-- Of two accounts the later one in the listing has fewer followers, or as many and the greater
number. -/
theorem pairwise_mostFollowed (h : s.Readable) (p : StoredUser → Bool) :
    (s.mostFollowed p).Pairwise StoredUser.Outranks := by
  let count (u : StoredUser) : Int := s.follows.naming (fun f ↦ some f.followingId) u.id
  let rank (u : StoredUser) : ℤᵒᵈ ×ₗ ℤ := toLex (OrderDual.toDual (count u), u.id)
  have hcount : ∀ u ∈ s.users.list.filter p, u.followersCount = .int (count u) := fun u hu ↦
    h.exact.followers u (List.mem_filter.1 hu).1
  have hle : ∀ u ∈ s.users.list.filter p, ∀ v ∈ s.users.list.filter p,
      (u.precedes v = true ↔ rank u ≤ rank v) := by
    intro u hu v hv
    rw [Prod.Lex.toLex_le_toLex]
    simp only [StoredUser.precedes, hcount u hu, hcount v hv, Cell.le, Bool.or_eq_true,
      Bool.not_eq_true', Bool.and_eq_true, decide_eq_true_eq, decide_eq_false_iff_not,
      OrderDual.toDual_lt_toDual, OrderDual.toDual_inj]
    omega
  have hne : (s.users.list.filter p).Pairwise fun u v ↦ rank u ≠ rank v :=
    (s.users.pairwise_key_ne p).imp fun hkey heq ↦ hkey (congrArg (·.2) heq)
  refine (pairwise_mergeSort_of_rank rank hle hne).imp_of_mem fun {u v} hu hv hlt ↦
    ⟨count u, count v, hcount u (List.mem_mergeSort.1 hu), hcount v (List.mem_mergeSort.1 hv), ?_⟩
  rcases Prod.Lex.toLex_lt_toLex.1 hlt with hmore | ⟨hsame, hfirst⟩
  · exact .inl hmore
  · exact .inr ⟨hsame, hfirst⟩

theorem length_mostFollowed_le (h : s.Readable) (p : StoredUser → Bool) :
    ((s.mostFollowed p).length : Int) ≤ Decimal.greatest := by
  rw [mostFollowed, List.length_mergeSort, ← List.countP_eq_length_filter]
  exact (h.grounded.fits_accounts (g := StoredUser.id) s.users.nodup.of_map
    (fun _ hu _ hv _ _ hid ↦ Rows.eq_of_key_eq hu hv hid)
    fun u hu ↦ Rows.has_iff.2 ⟨u, hu, rfl⟩).2

/-- Accounts that are stored can be shown. -/
theorem mapM_see (h : s.Readable) (viewer : Option Int) {α : Type} (f : α → StoredUser)
    {es : List α} (hstored : ∀ e ∈ es, f e ∈ s.users.list) :
    ∃ found, es.mapM (fun e ↦ s.see viewer (f e)) = .ok found ∧
      List.Forall₂ (fun e a ↦ s.see viewer (f e) = .ok a) es found :=
  mapM_eq_ok_forall₂ fun e he ↦ h.see_eq_ok viewer (hstored e he)

theorem searchUsers_eq_ok (h : s.Readable) {term : String}
    (hfits : Pattern.fits (Pattern.containing term) = true ∨ s.users.list = []) (page : Page)
    (viewer : Option Int) :
    ∃ found, s.searchUsers term page viewer = .ok found ∧
      List.Forall₂ (fun u a ↦ s.see viewer u = .ok a)
        (page.of (s.mostFollowed (·.matchesPattern (Pattern.containing term)))) found := by
  obtain ⟨found, hfound, hshown⟩ := h.mapM_see viewer id
    (stored_of_mem_page (·.matchesPattern (Pattern.containing term)) page)
  refine ⟨found, ?_, hshown⟩
  simp only [searchUsers, during_eq_ok_iff, bind_eq_ok_iff]
  refine ⟨(), h.equipped.require _, (), demand_eq_ok_iff.2 ?_, hfound⟩
  exact hfits.imp_right .inl

theorem suggestedUsers_eq_ok (h : s.Readable) (viewer : Int) (page : Page) :
    ∃ found, s.suggestedUsers viewer page = .ok found ∧
      List.Forall₂ (fun u a ↦ s.see (some viewer) u = .ok a)
        (page.of (s.mostFollowed fun u ↦ u.id ≠ viewer ∧ ¬s.follows? (some viewer) u.id))
        found := by
  obtain ⟨found, hfound, hshown⟩ := h.mapM_see (some viewer) id
    (stored_of_mem_page (fun u ↦ u.id ≠ viewer ∧ ¬s.follows? (some viewer) u.id) page)
  refine ⟨found, ?_, hshown⟩
  simp only [suggestedUsers, during_eq_ok_iff, bind_eq_ok_iff]
  exact ⟨(), h.equipped.require _, hfound⟩

theorem topUsers_eq_ok (h : s.Readable) (page : Page) :
    ∃ found, s.topUsers page = .ok found ∧
      List.Forall₂ (fun u user ↦ u.read = .ok user) (page.of (s.mostFollowed fun _ ↦ true))
        found := by
  obtain ⟨found, hfound, hshown⟩ := mapM_eq_ok_forall₂ fun u hu ↦
    h.read_user (stored_of_mem_page (fun _ ↦ true) page u hu)
  refine ⟨found, ?_, hshown⟩
  rw [mostFollowed, List.filter_true] at hfound
  simp only [topUsers, during_eq_ok_iff, bind_eq_ok_iff]
  exact ⟨(), h.equipped.require _, hfound⟩

end Readable

/-! ## Follows -/

/-- The follows that satisfy `p` with the accounts at their other end, the latest first. -/
def latestFollows (s : Store) (p : Follow → Bool) (other : Follow → Int) :
    List (Follow × StoredUser) :=
  ((s.follows.list.filter p).filterMap fun f ↦
    (s.users.get? (other f)).map fun u ↦ (f, u)).mergeSort laterFollow

section LatestFollows

variable {p : Follow → Bool} {other : Follow → Int}

theorem mem_latestFollows {e : Follow × StoredUser} :
    e ∈ s.latestFollows p other ↔
      (e.1 ∈ s.follows.list ∧ p e.1 = true) ∧ e.2 ∈ s.users.list ∧ e.2.id = other e.1 := by
  rw [latestFollows, List.mem_mergeSort, List.mem_filterMap]
  constructor
  · rintro ⟨f, hf, he⟩
    obtain ⟨u, hu, rfl⟩ := Option.map_eq_some_iff.1 he
    exact ⟨List.mem_filter.1 hf, Rows.get?_eq_some_iff.1 hu⟩
  · rintro ⟨hf, hu⟩
    have hother : s.users.get? (other e.1) = some e.2 := Rows.get?_eq_some_iff.2 hu
    exact ⟨e.1, List.mem_filter.2 hf, Option.map_eq_some_iff.2 ⟨e.2, hother, rfl⟩⟩

/-- The accounts at the other end of the follows differ. -/
def TellsApart (p : Follow → Bool) (other : Follow → Int) : Prop :=
  ∀ f g, p f = true → p g = true → other f = other g → Row.key f = Row.key g

/-- No account is joined to two of the follows. -/
theorem pairwise_joined (s : Store) (hother : TellsApart p other) :
    ((s.follows.list.filter p).filterMap fun f ↦
      (s.users.get? (other f)).map fun u ↦ (f, u)).Pairwise fun e e' ↦ e.2.id ≠ e'.2.id := by
  refine List.pairwise_filterMap.2 (List.Pairwise.imp_of_mem (fun {f g} hf hg hne ↦ ?_)
    (s.follows.pairwise_key_ne p))
  intro e he e' he' hid
  obtain ⟨u, hu, rfl⟩ := Option.map_eq_some_iff.1 he
  obtain ⟨v, hv, rfl⟩ := Option.map_eq_some_iff.1 he'
  have hu : u.id = other f := (Rows.get?_eq_some_iff.1 hu).2
  have hv : v.id = other g := (Rows.get?_eq_some_iff.1 hv).2
  exact hne (hother f g (List.mem_filter.1 hf).2 (List.mem_filter.1 hg).2
    (hu.symm.trans (hid.trans hv)))

/-- No account is listed twice. -/
theorem nodup_latestFollows (s : Store) (hother : TellsApart p other) :
    ((s.latestFollows p other).map (·.2.id)).Nodup :=
  ((List.mergeSort_perm _ _).map _).nodup_iff.2 (List.pairwise_map.2 (s.pairwise_joined hother))

/-- Of two follows the later one in the listing is the earlier one. -/
theorem pairwise_latestFollows (s : Store) (hother : TellsApart p other) :
    (s.latestFollows p other).Pairwise Follow.Later := by
  let rank (e : Follow × StoredUser) : Stringᵒᵈ ×ₗ ℤᵒᵈ :=
    toLex (OrderDual.toDual e.1.createdAt, OrderDual.toDual e.2.id)
  have hle : ∀ a b, laterFollow a b = true ↔ rank a ≤ rank b := by
    intro a b
    rw [Prod.Lex.toLex_le_toLex, laterFollow, Bool.or_eq_true, Bool.and_eq_true, decide_eq_true_eq,
      decide_eq_true_eq, beq_iff_eq]
    rfl
  refine (pairwise_mergeSort_of_rank rank (fun a _ b _ ↦ hle a b)
    ((s.pairwise_joined hother).imp fun hne heq ↦ hne (congrArg (·.2) heq))).imp fun hlt ↦ ?_
  exact Prod.Lex.toLex_lt_toLex.1 hlt

namespace Readable

theorem length_latestFollows_le (h : s.Readable) (hother : TellsApart p other)
    (hends : ∀ f ∈ s.follows.list, s.users.has (other f) = true) :
    ((s.latestFollows p other).length : Int) ≤ Decimal.greatest := by
  have hfits := h.grounded.fits_accounts (g := other) (p := p) s.follows.nodup.of_map
    (fun f hf g hg hpf hpg hid ↦ Rows.eq_of_key_eq hf hg (hother f g hpf hpg hid)) hends
  have hle := List.length_filterMap_le (fun f ↦ (s.users.get? (other f)).map fun u ↦ (f, u))
    (s.follows.list.filter p)
  rw [List.countP_eq_length_filter] at hfits
  rw [latestFollows, List.length_mergeSort]
  have hgreatest := hfits.2
  omega

theorem listFollows_eq_ok (h : s.Readable) (task : String) (p : Follow → Bool)
    (other : Follow → Int) (page : Page) (viewer : Option Int) :
    ∃ found, s.listFollows task p other page viewer = .ok found ∧
      List.Forall₂ (fun e a ↦ s.see viewer e.2 = .ok a) (page.of (s.latestFollows p other))
        found := by
  have hstored : ∀ e ∈ page.of (s.latestFollows p other), e.2 ∈ s.users.list := fun e he ↦
    (mem_latestFollows.1 (mem_of_mem_page he)).2.1
  obtain ⟨found, hfound, hshown⟩ := h.mapM_see viewer Prod.snd hstored
  refine ⟨found, ?_, hshown⟩
  simp only [listFollows, during_eq_ok_iff, bind_eq_ok_iff]
  exact ⟨(), h.equipped.require _, hfound⟩

end Readable

end LatestFollows

end Store

end Microblog
