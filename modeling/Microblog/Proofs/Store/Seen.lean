import Mathlib.Data.List.Forall2
import Microblog.Proofs.Store.Written

/-!
# What a viewer is shown

Accounts and tweets are shown together with what the viewer did with them.  Whatever statement shows
them, they are rows of the store, and the marks are those of the store as it is: `Store.Sees` says
so of accounts and `Store.Shows` of tweets.
-/

set_option autoImplicit false

namespace Microblog

namespace Store

variable {s : Store} {viewer : Option Int}

/-! ## Rows of a listing -/

theorem forall₂_of_mapM {ε α β : Type} {f : α → Except ε β} {as : List α} {bs : List β}
    (h : as.mapM f = .ok bs) : List.Forall₂ (fun a b ↦ f a = .ok b) as bs := by
  induction as generalizing bs with
  | nil =>
    obtain rfl := Except.ok.inj h
    exact .nil
  | cons a as ih =>
    rw [List.mapM_cons, bind_eq_ok_iff] at h
    obtain ⟨b, hb, h⟩ := h
    rw [bind_eq_ok_iff] at h
    obtain ⟨bs, hbs, h⟩ := h
    obtain rfl := Except.ok.inj h
    exact .cons hb (ih hbs)

/-- What is related step by step is related all the way. -/
theorem forall₂_comp {α β γ : Type} {R : α → β → Prop} {S : β → γ → Prop} {T : α → γ → Prop}
    (hcomp : ∀ a b c, R a b → S b c → T a c) {as : List α} {bs : List β} {cs : List γ}
    (hR : List.Forall₂ R as bs) (hS : List.Forall₂ S bs cs) : List.Forall₂ T as cs := by
  induction hR generalizing cs with
  | nil =>
    cases hS
    exact .nil
  | cons hab _ ih =>
    cases hS with
    | cons hbc hS => exact .cons (hcomp _ _ _ hab hbc) (ih hS)

theorem exists_of_forall₂ {α β : Type} {R : α → β → Prop} {as : List α} {bs : List β}
    (h : List.Forall₂ R as bs) {b : β} (hb : b ∈ bs) : ∃ a ∈ as, R a b := by
  induction h with
  | nil => cases hb
  | cons hab _ ih =>
    rcases List.mem_cons.1 hb with rfl | hb
    · exact ⟨_, List.mem_cons_self, hab⟩
    · obtain ⟨a, ha, hab⟩ := ih hb
      exact ⟨a, List.mem_cons_of_mem _ ha, hab⟩

theorem of_mem_mapM {ε α β : Type} {f : α → Except ε β} {as : List α} {bs : List β}
    (h : as.mapM f = .ok bs) {b : β} (hb : b ∈ bs) : ∃ a ∈ as, f a = .ok b :=
  exists_of_forall₂ (forall₂_of_mapM h) hb

theorem exists_mem_of_mapM {ε α β : Type} {f : α → Except ε β} {as : List α} {bs : List β}
    (h : as.mapM f = .ok bs) {a : α} (ha : a ∈ as) : ∃ b ∈ bs, f a = .ok b :=
  exists_of_forall₂ (forall₂_of_mapM h).flip ha

theorem mem_of_mem_limited {α : Type} {limit : Int} {rows : List α} {a : α}
    (h : a ∈ limited limit rows) : a ∈ rows := by
  rw [limited] at h
  split at h
  · exact h
  · exact List.mem_of_mem_take h

theorem mem_of_mem_page {α : Type} {page : Page} {rows : List α} {a : α}
    (h : a ∈ page.of rows) : a ∈ rows :=
  List.mem_of_mem_drop (mem_of_mem_limited h)

/-! ## Accounts -/

/-- An account as it is shown to `viewer`: it is stored, and marked as followed just if it is. -/
structure Sees (s : Store) (viewer : Option Int) (a : SeenUser) : Prop where
  stored : s.users.has a.user.id = true
  following : a.isFollowing = s.follows? viewer a.user.id

theorem id_of_read {u : StoredUser} {user : User} (h : u.read = .ok user) : user.id = u.id := by
  simp only [StoredUser.read, bind_eq_ok_iff, pure_eq_ok_iff] at h
  obtain ⟨_, -, _, -, rfl⟩ := h
  rfl

theorem id_of_see {u : StoredUser} {a : SeenUser} (h : s.see viewer u = .ok a) :
    a.user.id = u.id := by
  rw [see, bind_eq_ok_iff] at h
  obtain ⟨user, hread, ha⟩ := h
  obtain rfl := Except.ok.inj ha
  exact id_of_read hread

theorem sees_of_see {u : StoredUser} (hu : u ∈ s.users.list) {a : SeenUser}
    (h : s.see viewer u = .ok a) : s.Sees viewer a := by
  rw [see, bind_eq_ok_iff] at h
  obtain ⟨user, hread, ha⟩ := h
  obtain rfl := Except.ok.inj ha
  have hid := id_of_read hread
  exact ⟨Rows.has_iff.2 ⟨u, hu, hid.symm⟩, congrArg (s.follows? viewer) hid.symm⟩

/-- A page of accounts, each of which is stored. -/
theorem sees_of_mapM {α : Type} {f : α → StoredUser} {es : List α} {found : List SeenUser}
    (hstored : ∀ e ∈ es, f e ∈ s.users.list)
    (h : es.mapM (fun e ↦ s.see viewer (f e)) = .ok found) : ∀ a ∈ found, s.Sees viewer a := by
  intro a ha
  obtain ⟨e, he, hsee⟩ := of_mem_mapM h ha
  exact sees_of_see (hstored e he) hsee

theorem sees_of_seenUser? {id : Int} {a : SeenUser}
    (h : s.seenUser? id viewer = .ok (some a)) : s.Sees viewer a := by
  rw [seenUser?, during_eq_ok_iff, bind_eq_ok_iff] at h
  obtain ⟨-, -, hfound⟩ := h
  obtain ⟨u, hget, hsee⟩ := mapM_eq_ok_some_iff.1 hfound
  exact sees_of_see (Rows.get?_eq_some_iff.1 hget).1 hsee

theorem sees_of_usersByIds {ids : List Int} {found : List SeenUser}
    (h : s.usersByIds ids viewer = .ok found) : ∀ a ∈ found, s.Sees viewer a := by
  rw [usersByIds] at h
  split at h
  · obtain rfl := Except.ok.inj h
    exact fun _ ha ↦ absurd ha List.not_mem_nil
  · simp only [during_eq_ok_iff, bind_eq_ok_iff] at h
    obtain ⟨-, -, -, -, hfound⟩ := h
    exact sees_of_mapM (fun u hu ↦ (List.mem_filter.1 (List.mem_mergeSort.1 hu)).1) hfound

theorem sees_of_searchUsers {term : String} {page : Page} {found : List SeenUser}
    (h : s.searchUsers term page viewer = .ok found) : ∀ a ∈ found, s.Sees viewer a := by
  simp only [searchUsers, during_eq_ok_iff, bind_eq_ok_iff] at h
  obtain ⟨-, -, -, -, hfound⟩ := h
  refine sees_of_mapM (fun u hu ↦ ?_) hfound
  exact (List.mem_filter.1 (List.mem_mergeSort.1 (mem_of_mem_page hu))).1

theorem sees_of_suggestedUsers {id : Int} {page : Page} {found : List SeenUser}
    (h : s.suggestedUsers id page = .ok found) : ∀ a ∈ found, s.Sees (some id) a := by
  simp only [suggestedUsers, during_eq_ok_iff, bind_eq_ok_iff] at h
  obtain ⟨-, -, hfound⟩ := h
  refine sees_of_mapM (fun u hu ↦ ?_) hfound
  exact (List.mem_filter.1 (List.mem_mergeSort.1 (mem_of_mem_page hu))).1

theorem follows?_none (s : Store) (user : Int) : s.follows? none user = false := by
  simp [follows?]

/-- The most followed accounts, with no mark, are as those are shown them who are no viewer. -/
theorem sees_of_topUsers {page : Page} {found : List User} (h : s.topUsers page = .ok found) :
    ∀ user ∈ found, s.Sees none ⟨user, false⟩ := by
  simp only [topUsers, during_eq_ok_iff, bind_eq_ok_iff] at h
  obtain ⟨-, -, hfound⟩ := h
  intro user huser
  obtain ⟨u, hu, hread⟩ := of_mem_mapM hfound huser
  have hstored : u ∈ s.users.list := List.mem_mergeSort.1 (mem_of_mem_page hu)
  exact ⟨Rows.has_iff.2 ⟨u, hstored, (id_of_read hread).symm⟩, (s.follows?_none _).symm⟩

theorem sees_of_listFollows {task : String} {p : Follow → Bool} {other : Follow → Int}
    {page : Page} {found : List SeenUser}
    (h : s.listFollows task p other page viewer = .ok found) : ∀ a ∈ found, s.Sees viewer a := by
  simp only [listFollows, during_eq_ok_iff, bind_eq_ok_iff] at h
  obtain ⟨-, -, hfound⟩ := h
  refine sees_of_mapM (fun e he ↦ ?_) hfound
  obtain ⟨f, -, hget⟩ := List.mem_filterMap.1 (List.mem_mergeSort.1 (mem_of_mem_page he))
  obtain ⟨u, hu, rfl⟩ := Option.map_eq_some_iff.1 hget
  exact (Rows.get?_eq_some_iff.1 hu).1

/-! ## Tweets -/

theorem of_readTweet {t : StoredTweet} {u : Tweet} (h : t.read = .ok u) :
    u.id = t.id ∧ u.userId = t.userId ∧ u.retweetId = t.retweetId := by
  simp only [StoredTweet.read, bind_eq_ok_iff, pure_eq_ok_iff] at h
  obtain ⟨_, -, _, -, _, -, rfl⟩ := h
  exact ⟨rfl, rfl, rfl⟩

/-- A row that a listing shows to `viewer`. -/
def Shows (s : Store) (viewer : Option Int) (row : SeenTweet) : Prop :=
  ∃ t ∈ s.tweets.list, t.read = .ok row.tweet ∧ row.flags = s.flags viewer row.tweet

theorem seeTweet_eq_ok_iff {t : StoredTweet} {row : SeenTweet} :
    s.seeTweet viewer t = .ok row ↔
      t.read = .ok row.tweet ∧ row.flags = s.flags viewer row.tweet := by
  rw [seeTweet, bind_eq_ok_iff]
  constructor
  · rintro ⟨u, hread, hrow⟩
    obtain rfl := Except.ok.inj hrow
    exact ⟨hread, rfl⟩
  · rintro ⟨hread, hflags⟩
    refine ⟨row.tweet, hread, ?_⟩
    rw [← hflags]
    rfl

/-- Who is no viewer did nothing with any tweet. -/
theorem flags_none (s : Store) (t : Tweet) : s.flags none t = .none := by
  simp [flags, likes?, retweets?, follows?, ViewerFlags.none]

/-- What is listed is shown as it is stored. -/
theorem shows_of_listTweets {task : String} {p : StoredTweet → Bool}
    {order : StoredTweet → StoredTweet → Bool} {page : Page}
    {rows : List SeenTweet} (h : s.listTweets task p order page viewer = .ok rows) :
    ∀ row ∈ rows, s.Shows viewer row := by
  rw [listTweets, during_eq_ok_iff, bind_eq_ok_iff] at h
  obtain ⟨-, -, hrows⟩ := h
  intro row hrow
  obtain ⟨t, ht, hsee⟩ := of_mem_mapM hrows hrow
  have hstored : t ∈ s.tweets.list.filter p := List.mem_mergeSort.1 (mem_of_mem_page ht)
  exact ⟨t, (List.mem_filter.1 hstored).1, seeTweet_eq_ok_iff.1 hsee⟩

theorem shows_of_seenTweet? {id : Int} {row : SeenTweet}
    (h : s.seenTweet? id viewer = .ok (some row)) : s.Shows viewer row := by
  rw [seenTweet?, during_eq_ok_iff, bind_eq_ok_iff] at h
  obtain ⟨-, -, hfound⟩ := h
  obtain ⟨t, hget, hsee⟩ := mapM_eq_ok_some_iff.1 hfound
  exact ⟨t, (Rows.get?_eq_some_iff.1 hget).1, seeTweet_eq_ok_iff.1 hsee⟩

theorem shows_of_tweetsByIds {ids : List Int} {rows : List SeenTweet}
    (h : s.tweetsByIds ids viewer = .ok rows) : ∀ row ∈ rows, s.Shows viewer row := by
  rw [tweetsByIds] at h
  split at h
  · obtain rfl := Except.ok.inj h
    exact fun _ hrow ↦ absurd hrow List.not_mem_nil
  · simp only [during_eq_ok_iff, bind_eq_ok_iff] at h
    obtain ⟨-, -, -, -, hrows⟩ := h
    intro row hrow
    obtain ⟨t, ht, hsee⟩ := of_mem_mapM hrows hrow
    exact ⟨t, (List.mem_filter.1 (List.mem_mergeSort.1 ht)).1, seeTweet_eq_ok_iff.1 hsee⟩

theorem shows_of_tweetsByHashtag {tag : String} {page : Page} {rows : List SeenTweet}
    (h : s.tweetsByHashtag tag page viewer = .ok rows) : ∀ row ∈ rows, s.Shows viewer row := by
  rw [tweetsByHashtag, bind_eq_ok_iff] at h
  obtain ⟨-, -, hrows⟩ := h
  exact shows_of_listTweets hrows

theorem shows_of_tweetsByTerms {terms : List String} {page : Page} {rows : List SeenTweet}
    (h : s.tweetsByTerms terms page viewer = .ok rows) : ∀ row ∈ rows, s.Shows viewer row := by
  rw [tweetsByTerms] at h
  split at h
  · obtain rfl := Except.ok.inj h
    exact fun _ hrow ↦ absurd hrow List.not_mem_nil
  · rw [bind_eq_ok_iff] at h
    obtain ⟨-, -, hrows⟩ := h
    exact shows_of_listTweets hrows

end Store

end Microblog
