import Microblog.Proofs.Social.Action
import Microblog.Proofs.Store.Seen

/-!
# Items as they are filled in

The items of some rows are made of three answers of the store: the rows themselves, the authors and
the tweets that are referred to.  `Action.fills_of_items` says what comes of that: one item for each
row, in the order of the rows, with the tweet and the flags of the row, the author of the tweet, and
for a retweet record the tweet that it points at, all as the store shows them to the viewer.
-/

set_option autoImplicit false

namespace Microblog

open Hydration

/-! ## From what a batch is hydrated -/

theorem Hydration.of_author?_eq_some {known : List SeenUser} {id : Int} {a : SeenUser}
    (h : author? known id = some a) : a ∈ known ∧ a.user.id = id := by
  rw [author?, List.findRev?_eq_find?_reverse] at h
  exact ⟨List.mem_reverse.1 (List.mem_of_find?_eq_some h), by simpa using List.find?_some h⟩

theorem Hydration.of_find?_eq_some {references : List Reference} {id : Int} {r : Reference}
    (h : find? references id = some r) : r ∈ references ∧ r.tweet.id = id := by
  rw [find?, List.findRev?_eq_find?_reverse] at h
  exact ⟨List.mem_reverse.1 (List.mem_of_find?_eq_some h), by simpa using List.find?_some h⟩

namespace Store

variable {s : Store} {viewer : Option Int} {known : List SeenUser}

/-- A reference to a tweet as it is shown to `viewer`. -/
structure Cites (s : Store) (viewer : Option Int) (r : Reference) : Prop where
  author : s.Sees viewer r.author
  stored : ∃ t ∈ s.tweets.list, t.read = .ok r.tweet
  liked : r.isLiked = (s.flags viewer r.tweet).isLiked
  retweeted : r.isRetweeted = (s.flags viewer r.tweet).isRetweeted

theorem cites_of_reference? (hknown : ∀ a ∈ known, s.Sees viewer a) {row : SeenTweet}
    (hrow : s.Shows viewer row) {r : Reference} (h : reference? known row = some r) :
    s.Cites viewer r := by
  obtain ⟨a, ha, rfl⟩ := Option.map_eq_some_iff.1 h
  obtain ⟨t, ht, hread, hflags⟩ := hrow
  exact ⟨hknown a (of_author?_eq_some ha).1, ⟨t, ht, hread⟩, congrArg ViewerFlags.isLiked hflags,
    congrArg ViewerFlags.isRetweeted hflags⟩

end Store

namespace Action

theorem answer_loader_users (ids : List Int) (viewer : Option Int) (s : Social) :
    (loader.users ids viewer).answer s = .ok (s.store.usersByIds ids viewer) := rfl

theorem answer_loader_tweets (ids : List Int) (viewer : Option Int) (s : Social) :
    (loader.tweets ids viewer).answer s = .ok (s.store.tweetsByIds ids viewer) := rfl

variable {s : Social} {viewer : Option Int}

theorem sees_of_complete {known : List SeenUser} {rows : List SeenTweet} {all : List SeenUser}
    (hknown : ∀ a ∈ known, s.store.Sees viewer a)
    (h : (complete loader viewer known rows).answer s = .ok all) :
    ∀ a ∈ all, s.store.Sees viewer a := by
  rw [complete] at h
  split at h
  · obtain rfl := Except.ok.inj h
    exact hknown
  · obtain ⟨found, hfound, h⟩ := of_answer_bind s h
    rw [answer_loader_users] at hfound
    obtain rfl := Except.ok.inj hfound
    split at h
    · rename_i hids
      obtain rfl := Except.ok.inj h
      exact List.forall_mem_append.2 ⟨hknown, Store.sees_of_usersByIds hids⟩
    · obtain rfl := Except.ok.inj h
      exact hknown

/-- What is hydrated comes from the store. -/
theorem of_answer_hydrate {batch : List Tweet} {found : List Item}
    (h : (Microblog.hydrate loader viewer batch).answer s = .ok (.ok found)) :
    ∃ known references, (∀ a ∈ known, s.store.Sees viewer a) ∧
      (∀ r ∈ references, s.store.Cites viewer r) ∧
      batch.mapM (item known references : Tweet → Except (HydrationError StoreError) Item) =
        .ok found := by
  rw [Microblog.hydrate] at h
  split at h
  · rename_i hempty
    obtain rfl := Except.ok.inj (Except.ok.inj h)
    rw [List.isEmpty_iff.1 hempty]
    exact ⟨[], [], fun _ ha ↦ absurd ha List.not_mem_nil, fun _ hr ↦ absurd hr List.not_mem_nil,
      rfl⟩
  · obtain ⟨loaded, hloaded, h⟩ := of_answer_bind s h
    rw [answer_loader_users] at hloaded
    obtain rfl := Except.ok.inj hloaded
    split at h
    · cases h
    · rename_i known hknown
      have hsees := Store.sees_of_usersByIds hknown
      split at h
      · exact ⟨known, [], hsees, fun _ hr ↦ absurd hr List.not_mem_nil, Except.ok.inj h⟩
      · obtain ⟨loaded, hloaded, h⟩ := of_answer_bind s h
        rw [answer_loader_tweets] at hloaded
        obtain rfl := Except.ok.inj hloaded
        split at h
        · cases h
        · rename_i rows hrows
          obtain ⟨all, hcomplete, h⟩ := of_answer_bind s h
          have hall := sees_of_complete hsees hcomplete
          refine ⟨all, rows.filterMap (reference? all), hall, fun r hr ↦ ?_, Except.ok.inj h⟩
          obtain ⟨row, hrow, href⟩ := List.mem_filterMap.1 hr
          exact Store.cites_of_reference? hall (Store.shows_of_tweetsByIds hrows row hrow) href

end Action

/-! ## Items -/

/-- The item of a row: the tweet and the flags are those of the row, and all else is as it is shown
to `viewer`. -/
structure Store.Fills (s : Store) (viewer : Option Int) (row : SeenTweet) (i : Item) : Prop where
  tweet : i.tweet = row.tweet
  flags : i.flags = row.flags
  author : s.Sees viewer i.author
  authorOf : i.author.user.id = row.tweet.userId
  retweeted : ∀ r, i.retweeted = some r →
    s.Cites viewer r ∧ row.tweet.retweetId = some r.tweet.id

/-- The item of a stored tweet, as it is shown to `viewer`. -/
def Store.Displays (s : Store) (viewer : Option Int) (t : StoredTweet) (i : Item) : Prop :=
  ∃ row, s.seeTweet viewer t = .ok row ∧ s.Fills viewer row i

theorem Store.fills_of_item {s : Store} {viewer : Option Int} {known : List SeenUser}
    {references : List Reference} (hknown : ∀ a ∈ known, s.Sees viewer a)
    (hreferences : ∀ r ∈ references, s.Cites viewer r) {row : SeenTweet} {i : Item}
    (h : (item known references row.tweet : Except (HydrationError StoreError) Item) = .ok i) :
    s.Fills viewer row { i with flags := row.flags } := by
  rw [item] at h
  split at h
  · cases h
  · rename_i a ha
    obtain rfl := Except.ok.inj h
    obtain ⟨hmem, hid⟩ := of_author?_eq_some ha
    refine ⟨rfl, rfl, hknown a hmem, hid, fun r hr ↦ ?_⟩
    obtain ⟨id, htarget, hfound⟩ := Option.bind_eq_some_iff.1 hr
    obtain ⟨hmem, rfl⟩ := of_find?_eq_some hfound
    exact ⟨hreferences r hmem, htarget⟩

/-- The flags of the rows stay with their tweets. -/
theorem Store.fills_applyFlags {s : Store} {viewer : Option Int} {known : List SeenUser}
    {references : List Reference} (hknown : ∀ a ∈ known, s.Sees viewer a)
    (hreferences : ∀ r ∈ references, s.Cites viewer r) {rows : List SeenTweet} {found : List Item}
    (h : (rows.map (·.tweet)).mapM
      (item known references : Tweet → Except (HydrationError StoreError) Item) = .ok found) :
    List.Forall₂ (s.Fills viewer) rows (applyFlags found (rows.map (·.flags))) := by
  induction rows generalizing found with
  | nil =>
    obtain rfl := Except.ok.inj h
    exact .nil
  | cons row rows ih =>
    rw [List.map_cons, List.mapM_cons, bind_eq_ok_iff] at h
    obtain ⟨i, hi, h⟩ := h
    rw [bind_eq_ok_iff] at h
    obtain ⟨rest, hrest, h⟩ := h
    obtain rfl := Except.ok.inj h
    exact .cons (fills_of_item hknown hreferences hi) (ih hrest)

/-- **The items of some rows are those rows, in their order, filled in from the store.** -/
theorem Action.fills_of_items {s : Social} {viewer : Option Int} {rows : List SeenTweet}
    {found : List Item} (h : (items viewer rows).answer s = .ok found) :
    List.Forall₂ (s.store.Fills viewer) rows found := by
  obtain ⟨hydrated, hhydrated, h⟩ := of_answer_bind s h
  cases hydrated with
  | error e => cases h
  | ok batch =>
    obtain rfl := Except.ok.inj h
    obtain ⟨known, references, hknown, hreferences, hbatch⟩ := of_answer_hydrate hhydrated
    exact Store.fills_applyFlags hknown hreferences hbatch

end Microblog
