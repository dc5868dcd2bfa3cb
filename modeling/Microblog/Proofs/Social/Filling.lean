import Microblog.Proofs.Social.Items
import Microblog.Proofs.Store.Listing
import Microblog.Proofs.Timeline.Hydration

/-!
# Items can be made

Hydration asks the store at most three times, and each time the store could fail.  It does not when
it can be read and the batch is no larger than the statements allow: then every author is found, so
that the items of the rows can be made (`Action.answer_items_eq_ok`), and a stored tweet can be
looked at (`Action.answer_getTweet_eq_ok`).
-/

set_option autoImplicit false

namespace Microblog

open Hydration

/-! ## Sets of numbers -/

theorem length_insertAscending_le (n : Int) (ns : List Int) :
    (insertAscending n ns).length ≤ ns.length + 1 := by
  induction ns with
  | nil => exact Nat.le_refl _
  | cons m ns ih =>
    rw [insertAscending]
    split
    · exact Nat.le_refl _
    · split
      · exact Nat.le_succ _
      · exact Nat.succ_le_succ ih

theorem length_ascending_le (ns : List Int) : (ascending ns).length ≤ ns.length := by
  induction ns with
  | nil => exact Nat.le_refl _
  | cons n ns ih => exact (length_insertAscending_le n _).trans (Nat.succ_le_succ ih)

/-- A tweet refers to two others at most. -/
theorem Hydration.length_referenceIds_le (batch : List Tweet) :
    (referenceIds batch).length ≤ 2 * batch.length := by
  refine (length_ascending_le _).trans ?_
  induction batch with
  | nil => exact Nat.le_refl _
  | cons t batch ih =>
    have hparent : t.parentId.toList.length ≤ 1 := by cases t.parentId <;> simp
    have hretweet : t.retweetId.toList.length ≤ 1 := by cases t.retweetId <;> simp
    rw [List.flatMap_cons, List.length_append, List.length_append, List.length_cons]
    omega

/-- As many rows as a page may have can be filled in. -/
theorem Hydration.fits_of_le {n : Nat} (h : n ≤ 50) : 2 * n + 3 ≤ maxValues := by
  have hmax : maxValues = 32766 := rfl
  omega

/-! ## Authors -/

/-- The author of every tweet of a batch is among these accounts. -/
def Hydration.Authors (known : List SeenUser) (batch : List Tweet) : Prop :=
  ∀ t ∈ batch, ∃ a ∈ known, a.user.id = t.userId

theorem Hydration.exists_author? {known : List SeenUser} {id : Int}
    (h : ∃ a ∈ known, a.user.id = id) : ∃ a, author? known id = some a := by
  obtain ⟨a, ha, hid⟩ := h
  rw [← Option.isSome_iff_exists, author?, List.findRev?_eq_find?_reverse, List.find?_isSome]
  exact ⟨a, List.mem_reverse.2 ha, decide_eq_true hid⟩

theorem Hydration.exists_mapM_item {known : List SeenUser} {batch : List Tweet}
    (h : Authors known batch) (references : List Reference) :
    ∃ found, batch.mapM
      (item known references : Tweet → Except (HydrationError StoreError) Item) = .ok found := by
  refine Store.mapM_eq_ok fun t ht ↦ ?_
  obtain ⟨a, ha⟩ := exists_author? (h t ht)
  rw [item, ha]
  exact ⟨_, rfl⟩

/-- The author of a row that is shown is stored. -/
theorem Store.Grounded.has_author {s : Store} (h : s.Grounded) {viewer : Option Int}
    {row : SeenTweet} (hrow : s.Shows viewer row) : s.users.has row.tweet.userId = true := by
  obtain ⟨t, ht, hread, -⟩ := hrow
  rw [(of_readTweet hread).2.1]
  exact h.author t ht

namespace Action

variable {s : Social}

theorem answer_bind_of_ok {α β : Type} {a : Action α} {f : α → Action β} {x : α}
    (ha : a.Looks) (h : a.answer s = .ok x) : (a >>= f).answer s = (f x).answer s := by
  rw [answer_bind, h, ha.after]
  rfl

/-- Authors of references are added to those that are known, or nothing is. -/
theorem answer_complete_eq_ok (s : Social) (viewer : Option Int) (known : List SeenUser)
    (rows : List SeenTweet) :
    ∃ all, (complete loader viewer known rows).answer s = .ok all ∧ known ⊆ all := by
  rw [complete]
  split
  · exact ⟨known, rfl, List.Subset.refl _⟩
  · rw [answer_bind_of_ok (Looks.loader_users _ _) (answer_loader_users _ _ _)]
    split
    · exact ⟨_, rfl, List.subset_append_left _ _⟩
    · exact ⟨known, rfl, List.Subset.refl _⟩

/-- A batch whose authors are stored is hydrated. -/
theorem answer_hydrate_eq_ok (h : s.store.Readable) (viewer : Option Int) {batch : List Tweet}
    (hauthors : ∀ t ∈ batch, s.store.users.has t.userId = true)
    (hsize : 2 * batch.length + 3 ≤ maxValues) :
    ∃ found, (Microblog.hydrate loader viewer batch).answer s = .ok (.ok found) := by
  rw [Microblog.hydrate]
  split
  · exact ⟨[], rfl⟩
  have hids : (authorIds batch).length + 1 ≤ maxValues := by
    have hle := length_ascending_le (batch.map Tweet.userId)
    rw [List.length_map] at hle
    rw [authorIds]
    omega
  have hreferences := length_referenceIds_le batch
  obtain ⟨known, hknown, hfound⟩ := h.usersByIds_eq_ok viewer hids
  have hall : Authors known batch := fun t ht ↦
    hfound t.userId (mem_authorIds ht) (hauthors t ht)
  rw [answer_bind_of_ok (Looks.loader_users _ _) (answer_loader_users _ _ _), hknown]
  dsimp only
  split
  · obtain ⟨found, hitems⟩ := exists_mapM_item hall []
    exact ⟨found, congrArg Except.ok hitems⟩
  · have hids : (referenceIds batch).length + 3 ≤ maxValues := by omega
    obtain ⟨rows, hrows⟩ := h.tweetsByIds_eq_ok viewer hids
    rw [answer_bind_of_ok (Looks.loader_tweets _ _) (answer_loader_tweets _ _ _), hrows]
    obtain ⟨all, hcomplete, hsub⟩ := answer_complete_eq_ok s viewer known rows
    dsimp only
    rw [answer_bind_of_ok (Looks.complete _ _ _) hcomplete]
    have hauthors' : Authors all batch := fun t ht ↦ by
      obtain ⟨a, ha, hid⟩ := hall t ht
      exact ⟨a, hsub ha, hid⟩
    obtain ⟨found, hitems⟩ := exists_mapM_item hauthors' (rows.filterMap (reference? all))
    exact ⟨found, congrArg Except.ok hitems⟩

/-- The items of rows can be made whose authors are stored, whether or not the tweets still are,
unless the rows are more than a statement may be given. -/
theorem answer_items_of_authors (h : s.store.Readable) (viewer : Option Int)
    {rows : List SeenTweet} (hauthors : ∀ row ∈ rows, s.store.users.has row.tweet.userId = true)
    (hsize : 2 * rows.length + 3 ≤ maxValues) :
    ∃ found, (items viewer rows).answer s = .ok found := by
  obtain ⟨found, hfound⟩ := answer_hydrate_eq_ok h viewer (List.forall_mem_map.2 hauthors)
    (by rw [List.length_map]; exact hsize)
  rw [items, answer_bind_of_ok (Looks.hydrate _ _) hfound]
  exact ⟨_, rfl⟩

/-- **The items of rows that are shown can be made**, unless they are more than a statement may be
given. -/
theorem answer_items_eq_ok (h : s.store.Readable) (viewer : Option Int) {rows : List SeenTweet}
    (hrows : ∀ row ∈ rows, s.store.Shows viewer row) (hsize : 2 * rows.length + 3 ≤ maxValues) :
    ∃ found, (items viewer rows).answer s = .ok found :=
  answer_items_of_authors h viewer (fun row hrow ↦ h.grounded.has_author (hrows row hrow)) hsize

/-- The items of tweets that are stored can be made, one for each. -/
theorem answer_items_of_stored (h : s.store.Readable) (viewer : Option Int)
    {tweets : List StoredTweet} {rows : List SeenTweet}
    (hstored : ∀ t ∈ tweets, t ∈ s.store.tweets.list)
    (hrows : List.Forall₂ (fun t row ↦ s.store.seeTweet viewer t = .ok row) tweets rows)
    (hsize : 2 * tweets.length + 3 ≤ maxValues) :
    ∃ found, (items viewer rows).answer s = .ok found ∧
      List.Forall₂ (s.store.Displays viewer) tweets found := by
  have hshows : ∀ row ∈ rows, s.store.Shows viewer row := by
    intro row hrow
    obtain ⟨t, ht, hsee⟩ := Store.exists_of_forall₂ hrows hrow
    exact ⟨t, hstored t ht, Store.seeTweet_eq_ok_iff.1 hsee⟩
  obtain ⟨found, hfound⟩ := answer_items_eq_ok h viewer hshows (hrows.length_eq ▸ hsize)
  exact ⟨found, hfound, Store.forall₂_comp (fun _ row _ hsee hfills ↦ ⟨row, hsee, hfills⟩) hrows
    (fills_of_items hfound)⟩

/-- A page of a listing of tweets is filled with their items. -/
theorem answer_listing_eq_ok (h : s.store.Readable)
    {statement : Store → Except StoreError (List SeenTweet)} {task : String}
    {p : StoredTweet → Bool} {order : StoredTweet → StoredTweet → Bool} {page : Page}
    {viewer : Option Int}
    (hstatement : statement s.store = s.store.listTweets task p order page viewer)
    (hsize : 2 * (page.of ((s.store.tweets.list.filter p).mergeSort order)).length + 3 ≤
      maxValues) :
    ∃ found, (ask statement >>= items viewer).answer s = .ok found ∧
      List.Forall₂ (s.store.Displays viewer)
        (page.of ((s.store.tweets.list.filter p).mergeSort order)) found := by
  obtain ⟨rows, hrows, hsee⟩ := h.listTweets_shows task p order page viewer
  have hstored : ∀ t ∈ page.of ((s.store.tweets.list.filter p).mergeSort order),
      t ∈ s.store.tweets.list := fun t ht ↦
    (List.mem_filter.1 (List.mem_mergeSort.1 (Store.mem_of_mem_page ht))).1
  obtain ⟨found, hfound, hdisplays⟩ := answer_items_of_stored h viewer hstored hsee hsize
  refine ⟨found, ?_, hdisplays⟩
  rw [answer_bind_of_ok (Looks.ask _) ((answer_ask_eq_ok_iff s).2 (hstatement.trans hrows))]
  exact hfound

/-- A stored tweet can be looked at, and what is shown is its item. -/
theorem answer_getTweet_of_stored (h : s.store.Readable) (viewer : Option Int) {t : StoredTweet}
    (ht : t ∈ s.store.tweets.list) :
    ∃ i, (getTweet t.id viewer).answer s = .ok i ∧ s.store.Displays viewer t i := by
  obtain ⟨row, hasked, hsee⟩ := h.seenTweet?_eq_ok viewer ht
  obtain ⟨found, hfound, hdisplays⟩ := answer_items_of_stored h viewer
    (List.forall_mem_singleton.2 ht) (.cons hsee .nil) (fits_of_le (by simp))
  rw [getTweet, answer_bind_of_ok (Looks.ask _) ((answer_ask_eq_ok_iff s).2 hasked),
    answer_bind_of_ok (Looks.orFail _ _) ((answer_orFail_eq_ok_iff s).2 rfl),
    answer_bind_of_ok (Looks.items _ _) hfound]
  -- one row makes one item
  cases hdisplays with
  | cons hdisplay _ => exact ⟨_, rfl, hdisplay⟩

theorem answer_getTweet_eq_ok (h : s.store.Readable) (viewer : Option Int) {tweet : Int}
    (htweet : s.store.tweets.has tweet = true) :
    ∃ i, (getTweet tweet viewer).answer s = .ok i ∧ i.tweet.id = tweet := by
  obtain ⟨t, ht, hid⟩ := Rows.has_iff.1 htweet
  obtain rfl : t.id = tweet := hid
  obtain ⟨i, hi, row, hsee, hfills⟩ := answer_getTweet_of_stored h viewer ht
  refine ⟨i, hi, ?_⟩
  rw [hfills.tweet]
  exact (Store.of_readTweet (Store.seeTweet_eq_ok_iff.1 hsee).1).1

end Action

end Microblog
