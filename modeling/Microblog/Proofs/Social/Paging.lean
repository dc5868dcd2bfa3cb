import Microblog.Proofs.Social.Atomic
import Microblog.Proofs.Social.Caching
import Microblog.Proofs.Social.Flags
import Microblog.Proofs.Social.Querying
import Microblog.Proofs.Store.Inbox

/-!
# The pages of a listing

Whatever is listed, there is one list of rows behind it, in a strict order, and its pages are the
windows on that list: `Social.Lists` says so of one listing, `Social.Paged` of all of them, and
`Social.run_paged` of every run.

* The rows are those of `Microblog.Proofs.Store.Listing`; here they are followed to the answer.
* A tweet that is listed becomes an item, and hydration neither leaves out nor adds any
  (`Action.answer_items_of_stored`).
* The feed of everybody is a listing of the store where no cache is asked.
* Searches are listings as long as they stay within the limits of their statements
  (`Store.WithinLimits`), and these limits are needed (`Social.not_lists_manyWords`): with too many
  words there is no page at all.
-/

set_option autoImplicit false

namespace Microblog

open Text

namespace Action

variable {α β : Type} {s : Social} {viewer : Option Int}

/-! ## Reading pages -/

/-- Actions that change nothing are done one after the other as if each were done alone. -/
theorem answer_mapM {f : β → Action α} {bs : List β} (h : ∀ b ∈ bs, (f b).after s = s) :
    (bs.mapM f).answer s = bs.mapM fun b ↦ (f b).answer s := by
  induction bs with
  | nil => rfl
  | cons b bs ih =>
    have hrest := ih fun b' hb' ↦ h b' (List.mem_cons_of_mem _ hb')
    rw [List.mapM_cons, List.mapM_cons, answer_bind, h b List.mem_cons_self]
    cases (f b).answer s with
    | error e => rfl
    | ok a =>
      show ((bs.mapM f >>= fun as ↦ pure (a :: as) : Action (List α))).answer s = _
      rw [answer_bind, hrest]
      cases bs.mapM fun b ↦ (f b).answer s with
      | error e => rfl
      | ok as => rfl

/-- The first `n` pages of a listing, read one after the other, each with `size` rows at most. -/
def readPages (list : Page → Action (List α)) (n size : Nat) : Action (List (List α)) :=
  (List.range n).mapM fun i : Nat ↦ list ⟨i, size⟩

/-! ## The feed of everybody -/

/-- A viewer, or the lack of a cache, takes the feed of everybody from the store. -/
theorem feedRows_of_uncached (h : viewer.isSome = true ∨ s.cache = none) (page : Page) :
    (feedRows page viewer).answer s = (ask (Store.globalFeed page viewer)).answer s ∧
      (feedRows page viewer).after s = s := by
  cases viewer with
  | some viewer => exact ⟨rfl, after_ask s _⟩
  | none =>
    exact cached_of_uncached (after_ask s _) (h.resolve_left Bool.false_ne_true)

theorem globalFeed_of_uncached (h : viewer.isSome = true ∨ s.cache = none) (page : Page) :
    (globalFeed page viewer).answer s =
        (ask (Store.globalFeed page viewer) >>= items viewer).answer s ∧
      (globalFeed page viewer).after s = s := by
  obtain ⟨hanswer, hafter⟩ := feedRows_of_uncached h page
  constructor
  · rw [globalFeed, answer_bind, answer_bind, hanswer, hafter, after_ask]
  · rw [globalFeed, after_bind, hafter]
    cases ((feedRows page viewer).answer s).toOption with
    | none => rfl
    | some rows => exact (Looks.items viewer rows).after s

end Action

namespace Social

/-! ## Listings -/

section Lists

variable {α β : Type}

/-- The pages of a listing are windows on one list of rows, each of which is shown in its place. -/
structure Lists (s : Social) (list : Page → Action (List α)) (shows : β → α → Prop)
    (before : β → β → Prop) (rows : List β) : Prop where
  /-- No row is listed twice. -/
  nodup : rows.Nodup
  sorted : rows.Pairwise before
  /-- There are no more rows than numbers, so that every row is on a page that may be asked for. -/
  length_le : (rows.length : Int) ≤ Decimal.greatest
  /-- A page shows the rows in its window, in their order. -/
  page : ∀ {p : Page}, p.Allowed → ∃ found, (list p).answer s = .ok found ∧
    List.Forall₂ shows ((rows.drop (p.page * p.size).toNat).take p.size.toNat) found
  /-- To look at a page changes nothing. -/
  unchanged : ∀ p, (list p).after s = s
  /-- Pages that are read one after the other neither repeat nor lose a row. -/
  pages : ∀ n size : Nat, (∀ i < n, Page.Allowed ⟨i, size⟩) →
    ∃ found, (Action.readPages list n size).answer s = .ok found ∧
      List.Forall₂ shows (rows.take (n * size)) found.flatten

variable {s : Social} {list : Page → Action (List α)} {shows : β → α → Prop}
  {before : β → β → Prop} {rows : List β}

/-- A listing whose pages are cut out of its rows. -/
theorem lists_of_pages (hirrefl : ∀ b, ¬before b b) (hsorted : rows.Pairwise before)
    (hlength : (rows.length : Int) ≤ Decimal.greatest) (hafter : ∀ p, (list p).after s = s)
    (hpage : ∀ {p : Page}, p.Allowed → ∃ found, (list p).answer s = .ok found ∧
      List.Forall₂ shows (p.of rows) found) : s.Lists list shows before rows where
  nodup := by
    refine List.nodup_iff_pairwise_ne.2 (hsorted.imp ?_)
    rintro a _ hab rfl
    exact hirrefl a hab
  sorted := hsorted
  length_le := hlength
  page {p} hp := by
    obtain ⟨n, size, rfl, -, -, hfits⟩ := Page.allowed_iff.1 hp
    have hpage := hpage hp
    rw [Page.of_eq_take_drop (.inr hfits)] at hpage
    exact hpage
  unchanged := hafter
  pages n size hallowed := by
    rw [Action.readPages, Action.answer_mapM fun _ _ ↦ hafter _]
    refine Store.mapM_windows_eq_ok fun i hi ↦ ?_
    have hpage := hpage (hallowed i (List.mem_range.1 hi))
    rw [Page.of_eq_take_drop (.inl hlength)] at hpage
    exact hpage

/-- Every row is on one page of each size, and on one only. -/
theorem Lists.existsUnique_page (h : s.Lists list shows before rows) {size : Nat}
    (hsize : 1 ≤ size) (hmax : size ≤ 50) {b : β} (hb : b ∈ rows) :
    ∃! n : Nat, Page.Allowed ⟨n, size⟩ ∧ b ∈ (rows.drop (n * size)).take size := by
  obtain ⟨n, ⟨hstart, hmem⟩, hunique⟩ := existsUnique_window h.nodup hsize hb
  have hfits := h.length_le
  refine ⟨n, ⟨Page.allowed_iff.2 ⟨n, size, rfl, hsize, hmax, by omega⟩, hmem⟩, ?_⟩
  rintro n' ⟨-, hmem'⟩
  -- a window that shows a row begins before the end
  have hstart' : n' * size < rows.length := by
    have hpos := List.length_pos_of_mem (List.mem_of_mem_take hmem')
    rw [List.length_drop] at hpos
    omega
  exact hunique n' ⟨hstart', hmem'⟩

/-- A page shows a row just if the row is in its window, unless another row is shown alike. -/
theorem Lists.shown_iff (h : s.Lists list shows before rows) {n size : Nat}
    (hallowed : Page.Allowed ⟨n, size⟩) {b : β}
    (halone : ∀ b' ∈ rows, ∀ a, shows b' a → shows b a → b' = b) :
    (∃ found, (list ⟨n, size⟩).answer s = .ok found ∧ ∃ a ∈ found, shows b a) ↔
      b ∈ (rows.drop (n * size)).take size := by
  obtain ⟨found, hfound, hshown⟩ := h.page hallowed
  have hwindow : (rows.drop ((n : Int) * (size : Int)).toNat).take (size : Int).toNat =
      (rows.drop (n * size)).take size := by
    rw [← Int.natCast_mul, Int.toNat_natCast, Int.toNat_natCast]
  rw [hwindow] at hshown
  constructor
  · rintro ⟨found', hfound', a, ha, hb⟩
    obtain rfl := Except.ok.inj (hfound'.symm.trans hfound)
    obtain ⟨b', hb', hshows⟩ := Store.exists_of_forall₂ hshown ha
    exact halone b' (List.mem_of_mem_drop (List.mem_of_mem_take hb')) a hshows hb ▸ hb'
  · intro hmem
    obtain ⟨a, ha, hshows⟩ := Store.exists_of_forall₂ hshown.flip hmem
    exact ⟨found, hfound, a, ha, hshows⟩

/-- A listing without rows. -/
theorem lists_nil (hirrefl : ∀ b, ¬before b b) (h : ∀ p, list p = pure []) :
    s.Lists list shows before [] := by
  refine lists_of_pages hirrefl .nil (by rw [List.length_nil]; decide) (fun p ↦ by rw [h]; rfl)
    fun {p} _ ↦ ⟨[], ?_, ?_⟩
  · rw [h]
    rfl
  · rw [Page.of_nil]
    exact .nil

end Lists

/-! ## Listings of tweets -/

section Tweets

variable {s : Social} {viewer : Option Int} {task : String} {p : StoredTweet → Bool}
  {statement : Page → Store → Except StoreError (List SeenTweet)} {list : Page → Action (List Item)}

/-- The tweets that a statement lists, in a strict order. -/
theorem lists_tweets (h : s.store.Readable) {order : StoredTweet → StoredTweet → Bool}
    {before : StoredTweet → StoredTweet → Prop} (hirrefl : ∀ t, ¬before t t)
    (hsorted : ((s.store.tweets.list.filter p).mergeSort order).Pairwise before)
    (hlist : ∀ page, (list page).answer s =
      (Action.ask (statement page) >>= Action.items viewer).answer s ∧ (list page).after s = s)
    (hstatement : ∀ page, statement page s.store =
      s.store.listTweets task p order page viewer) :
    s.Lists list (s.store.Displays viewer) before
      ((s.store.tweets.list.filter p).mergeSort order) := by
  refine lists_of_pages hirrefl hsorted (h.length_listed_le p order) (fun page ↦ (hlist page).2)
    fun {page} hpage ↦ ?_
  rw [(hlist page).1]
  exact Action.answer_listing_eq_ok h (hstatement page)
    (Hydration.fits_of_le (hpage.length_of_le _))

/-- The tweets that a statement lists, the newest first. -/
theorem lists_newest (h : s.store.Readable)
    (hlist : ∀ page, (list page).answer s =
      (Action.ask (statement page) >>= Action.items viewer).answer s ∧ (list page).after s = s)
    (hstatement : ∀ page, statement page s.store =
      s.store.listTweets task p StoredTweet.isNewer page viewer) :
    s.Lists list (s.store.Displays viewer) (fun t u ↦ u.id < t.id) (s.store.newest p) :=
  lists_tweets h (fun _ ↦ lt_irrefl _) (s.store.pairwise_newest p) hlist hstatement

end Tweets

/-! ## All listings -/

/-- The pages of all listings.  In each case the rows are those that the request is about, and they
are the same for all pages and all viewers. -/
structure Paged (s : Social) : Prop where
  /-- The feed of everybody, for viewers and where nothing is cached, and out of the same rows the
  feed of those whom a viewer follows. -/
  feeds : ∃ rows : List StoredTweet,
    (∀ t, t ∈ rows ↔ t ∈ s.store.tweets.list ∧ t.parentId = none) ∧
    (∀ viewer : Option Int, viewer.isSome = true ∨ s.cache = none →
      s.Lists (Action.globalFeed · viewer) (s.store.Displays viewer) (fun t u ↦ u.id < t.id)
        rows) ∧
    ∀ viewer : Int, s.Lists (Action.followingFeed viewer) (s.store.Displays (some viewer))
      (fun t u ↦ u.id < t.id)
      (rows.filter fun t ↦ t.userId = viewer ∨ s.store.follows? (some viewer) t.userId)
  userFeed : ∀ user : Int, ∃ rows : List StoredTweet,
    (∀ t, t ∈ rows ↔ t ∈ s.store.tweets.list ∧ t.userId = user) ∧
    ∀ viewer, s.Lists (Action.userFeed user · viewer) (s.store.Displays viewer)
      (fun t u ↦ u.id < t.id) rows
  replies : ∀ tweet : Int, ∃ rows : List StoredTweet,
    (∀ t, t ∈ rows ↔ t ∈ s.store.tweets.list ∧ t.parentId = some tweet) ∧
    ∀ viewer, s.Lists (Action.replies tweet · viewer) (s.store.Displays viewer)
      (fun t u ↦ t.id < u.id) rows
  searchTweets : ∀ query : String, s.store.WithinLimits query → ∃ rows : List StoredTweet,
    (∀ t, t ∈ rows ↔ t ∈ s.store.tweets.list ∧ s.store.MatchesQuery query t) ∧
    ∀ viewer, s.Lists (Action.searchTweets query · viewer) (s.store.Displays viewer)
      (fun t u ↦ u.id < t.id) rows
  /-- A search for too many words fails on every page. -/
  manyWords : ∀ query : String, (trim query).toList.head? ≠ some '#' →
    997 ≤ (words (trim query)).length → ∀ (page : Page) (viewer : Option Int),
      ∃ f, (Action.searchTweets query page viewer).answer s = .error f ∧
        f.report = ⟨.internal, "Failed to search tweets"⟩
  searchUsers : ∀ query : String, s.store.WithinUserLimits query → ∃ rows : List StoredUser,
    (∀ u, u ∈ rows ↔ u ∈ s.store.users.list ∧ trim query ≠ "" ∧
      u.matchesPattern (Pattern.containing (trim query)) = true) ∧
    ∀ viewer, s.Lists (Action.searchUsers query · viewer) (s.store.see viewer · = .ok ·)
      StoredUser.Outranks rows
  /-- Who follows an account: each of them once, with the follow that makes them do so. -/
  followers : ∀ user : Int, ∃ rows : List (Follow × StoredUser),
    (∀ e, e ∈ rows ↔ (e.1 ∈ s.store.follows.list ∧ e.1.followingId = user) ∧
      e.2 ∈ s.store.users.list ∧ e.2.id = e.1.followerId) ∧
    (rows.map (·.2.id)).Nodup ∧
    ∀ viewer, s.Lists (Action.followers user · viewer) (s.store.see viewer ·.2 = .ok ·)
      Follow.Later rows
  following : ∀ user : Int, ∃ rows : List (Follow × StoredUser),
    (∀ e, e ∈ rows ↔ (e.1 ∈ s.store.follows.list ∧ e.1.followerId = user) ∧
      e.2 ∈ s.store.users.list ∧ e.2.id = e.1.followingId) ∧
    (rows.map (·.2.id)).Nodup ∧
    ∀ viewer, s.Lists (Action.following user · viewer) (s.store.see viewer ·.2 = .ok ·)
      Follow.Later rows
  /-- Nobody is suggested to themselves or to those who follow them. -/
  suggested : ∀ viewer : Option Int, ∃ rows : List StoredUser,
    (∀ u, u ∈ rows ↔ u ∈ s.store.users.list ∧ some u.id ≠ viewer ∧
      ¬s.store.Following viewer u.id) ∧
    s.Lists (Action.suggested · viewer) (s.store.see viewer · = .ok ·) StoredUser.Outranks rows
  notifications : ∀ user : Int, ∃ rows : List StoredNotification,
    (∀ m, m ∈ rows ↔ m ∈ s.store.notifications.list ∧ m.recipientId = user) ∧
    s.Lists (Action.notifications user) (·.read = .ok ·) (fun m n ↦ n.id < m.id) rows

section Listings

variable {s : Social}

theorem not_outranks_self (u : StoredUser) : ¬u.Outranks u := by
  rintro ⟨m, n, hm, hn, hlt | ⟨-, hlt⟩⟩
  · obtain rfl := Cell.int.inj (hm.symm.trans hn)
    exact lt_irrefl m hlt
  · exact lt_irrefl u.id hlt

theorem not_later_self (e : Follow × StoredUser) : ¬Follow.Later e e := by
  rintro (hlt | ⟨-, hlt⟩)
  · exact lt_irrefl _ hlt
  · exact lt_irrefl _ hlt

/-- Accounts are listed by a statement that shows the most followed first. -/
theorem lists_mostFollowed (h : s.store.Readable) {viewer : Option Int} {p : StoredUser → Bool}
    {list : Page → Action (List SeenUser)} (hlooks : ∀ page, (list page).Looks)
    (hpage : ∀ page, ∃ found, (list page).answer s = .ok found ∧
      List.Forall₂ (s.store.see viewer · = .ok ·) (page.of (s.store.mostFollowed p)) found) :
    s.Lists list (s.store.see viewer · = .ok ·) StoredUser.Outranks (s.store.mostFollowed p) :=
  lists_of_pages not_outranks_self (h.pairwise_mostFollowed p) (h.length_mostFollowed_le p)
    (fun page ↦ (hlooks page).after s) fun _ ↦ hpage _

/-- The accounts at the other end of follows are listed with the latest follow first. -/
theorem lists_latestFollows (h : s.store.Readable) {p : Follow → Bool} {other : Follow → Int}
    (hother : Store.TellsApart p other)
    (hends : ∀ f ∈ s.store.follows.list, s.store.users.has (other f) = true) (task : String)
    (viewer : Option Int) :
    s.Lists (fun page ↦ Action.ask (Store.listFollows task p other page viewer))
      (s.store.see viewer ·.2 = .ok ·) Follow.Later (s.store.latestFollows p other) := by
  refine lists_of_pages not_later_self (s.store.pairwise_latestFollows hother)
    (h.length_latestFollows_le hother hends) (fun page ↦ Action.after_ask s _) fun {page} _ ↦ ?_
  obtain ⟨found, hfound, hshown⟩ := h.listFollows_eq_ok task p other page viewer
  exact ⟨found, (Action.answer_ask_eq_ok_iff s).2 hfound, hshown⟩

theorem tellsApart_followers (user : Int) :
    Store.TellsApart (·.followingId = user) Follow.followerId := by
  intro f g hf hg hid
  rw [decide_eq_true_eq] at hf hg
  exact Prod.ext hid (hf.trans hg.symm)

theorem tellsApart_following (user : Int) :
    Store.TellsApart (·.followerId = user) Follow.followingId := by
  intro f g hf hg hid
  rw [decide_eq_true_eq] at hf hg
  exact Prod.ext (hf.trans hg.symm) hid

/-- What a search for tweets lists is what its query asks for. -/
theorem lists_searchTweets (h : s.store.Readable) {query : String}
    (hlimits : s.store.WithinLimits query) : ∃ rows : List StoredTweet,
      (∀ t, t ∈ rows ↔ t ∈ s.store.tweets.list ∧ s.store.MatchesQuery query t) ∧
      ∀ viewer, s.Lists (Action.searchTweets query · viewer) (s.store.Displays viewer)
        (fun t u ↦ u.id < t.id) rows := by
  obtain ⟨task, p, hstatement, hp⟩ := h.searchTweets_eq hlimits
  refine ⟨s.store.newest p, fun t ↦ ?_, fun viewer ↦ lists_newest h (fun page ↦ ?_)
    (hstatement · viewer)⟩
  · rw [Store.mem_newest, hp]
  · exact ⟨Action.answer_searchTweets query page viewer s,
      (Action.Looks.searchTweets query page viewer).after s⟩

/-- What a search for accounts lists are those that its pattern matches. -/
theorem lists_searchUsers (h : s.store.Readable) {query : String}
    (hlimits : s.store.WithinUserLimits query) : ∃ rows : List StoredUser,
      (∀ u, u ∈ rows ↔ u ∈ s.store.users.list ∧ trim query ≠ "" ∧
        u.matchesPattern (Pattern.containing (trim query)) = true) ∧
      ∀ viewer, s.Lists (Action.searchUsers query · viewer) (s.store.see viewer · = .ok ·)
        StoredUser.Outranks rows := by
  by_cases hblank : trim query = ""
  · refine ⟨[], fun u ↦ ?_, fun viewer ↦ lists_nil not_outranks_self fun page ↦ if_pos hblank⟩
    exact iff_of_false List.not_mem_nil fun hu ↦ hu.2.1 hblank
  · refine ⟨s.store.mostFollowed (·.matchesPattern (Pattern.containing (trim query))),
      fun u ↦ ?_, fun viewer ↦ lists_mostFollowed h (fun page ↦ .searchUsers query page viewer)
        fun page ↦ ?_⟩
    · rw [Store.mem_mostFollowed, and_iff_right hblank]
    · obtain ⟨found, hfound, hshown⟩ := h.searchUsers_eq_ok hlimits page viewer
      refine ⟨found, ?_, hshown⟩
      rw [Action.searchUsers, if_neg hblank]
      exact (Action.answer_ask_eq_ok_iff s).2 hfound

/-- Suggested are those whom a viewer does not follow, and to somebody who is no viewer all. -/
theorem lists_suggested (h : s.store.Readable) (viewer : Option Int) : ∃ rows : List StoredUser,
    (∀ u, u ∈ rows ↔ u ∈ s.store.users.list ∧ some u.id ≠ viewer ∧
      ¬s.store.Following viewer u.id) ∧
    s.Lists (Action.suggested · viewer) (s.store.see viewer · = .ok ·) StoredUser.Outranks
      rows := by
  cases viewer with
  | some viewer =>
    refine ⟨s.store.mostFollowed fun u ↦ u.id ≠ viewer ∧ ¬s.store.follows? (some viewer) u.id,
      fun u ↦ ?_, lists_mostFollowed h (fun page ↦ .suggested page _) fun page ↦ ?_⟩
    · rw [Store.mem_mostFollowed, decide_eq_true_eq, ← Store.follows?_iff, ne_eq, ne_eq,
        Option.some_inj]
    · obtain ⟨found, hfound, hshown⟩ := h.suggestedUsers_eq_ok viewer page
      exact ⟨found, (Action.answer_ask_eq_ok_iff s).2 hfound, hshown⟩
  | none =>
    refine ⟨s.store.mostFollowed fun _ ↦ true, fun u ↦ ?_,
      lists_mostFollowed h (fun page ↦ .suggested page _) fun page ↦ ?_⟩
    · rw [Store.mem_mostFollowed, ← Store.follows?_iff, Store.follows?_none]
      simp
    · obtain ⟨users, husers, hread⟩ := h.topUsers_eq_ok page
      refine ⟨users.map fun u ↦ ⟨u, false⟩, ?_, List.forall₂_map_right_iff.2 (hread.imp ?_)⟩
      · rw [Action.suggested,
          Action.answer_bind_of_ok (.ask _) ((Action.answer_ask_eq_ok_iff s).2 husers)]
        rfl
      · intro u user hu
        rw [Store.see, hu, Store.follows?_none]
        rfl

/-- The feed of everybody, and out of the same rows the feed of whom a viewer follows. -/
theorem lists_feeds (h : s.store.Readable) : ∃ rows : List StoredTweet,
    (∀ t, t ∈ rows ↔ t ∈ s.store.tweets.list ∧ t.parentId = none) ∧
    (∀ viewer : Option Int, viewer.isSome = true ∨ s.cache = none →
      s.Lists (Action.globalFeed · viewer) (s.store.Displays viewer) (fun t u ↦ u.id < t.id)
        rows) ∧
    ∀ viewer : Int, s.Lists (Action.followingFeed viewer) (s.store.Displays (some viewer))
      (fun t u ↦ u.id < t.id)
      (rows.filter fun t ↦ t.userId = viewer ∨ s.store.follows? (some viewer) t.userId) := by
  refine ⟨s.store.newest fun t ↦ t.parentId = none, fun t ↦ ?_, fun viewer huncached ↦ ?_,
    fun viewer ↦ ?_⟩
  · rw [Store.mem_newest, decide_eq_true_eq]
  · exact lists_newest h (Action.globalFeed_of_uncached huncached) fun _ ↦ rfl
  · have hfilter : (s.store.newest fun t ↦ t.parentId = none).filter
        (fun t ↦ t.userId = viewer ∨ s.store.follows? (some viewer) t.userId) =
        s.store.newest fun t ↦ t.parentId = none ∧
          (t.userId = viewer ∨ s.store.follows? (some viewer) t.userId) := by
      rw [Store.filter_newest]
      congr 1
      funext t
      rw [← Bool.decide_and]
      exact decide_eq_decide.2 and_comm
    rw [hfilter]
    exact lists_newest h (fun page ↦ ⟨rfl, (Action.Looks.followingFeed viewer page).after s⟩)
      fun _ ↦ rfl

/-- In a store that is in order, the pages of every listing are windows on its rows. -/
theorem paged_of_orderly (h : s.store.Readable) (hdelivered : s.store.Delivered) : s.Paged where
  feeds := lists_feeds h
  userFeed user := by
    refine ⟨s.store.newest (·.userId = user), fun t ↦ ?_, fun viewer ↦ lists_newest h
      (fun page ↦ ⟨rfl, (Action.Looks.userFeed user page viewer).after s⟩) fun _ ↦ rfl⟩
    rw [Store.mem_newest, decide_eq_true_eq]
  replies tweet := by
    refine ⟨s.store.oldest (·.parentId = some tweet), fun t ↦ ?_, fun viewer ↦ lists_tweets h
      (fun _ ↦ lt_irrefl _) (s.store.pairwise_oldest _)
      (fun page ↦ ⟨rfl, (Action.Looks.replies tweet page viewer).after s⟩) fun _ ↦ rfl⟩
    rw [Store.mem_oldest, decide_eq_true_eq]
  searchTweets query hlimits := lists_searchTweets h hlimits
  manyWords query hplain hmany page viewer := ⟨.store ⟨"search tweets", .other⟩,
    Action.searchTweets_of_many h.equipped (Action.queriedTag?_eq_none hplain) hmany page viewer,
    rfl⟩
  searchUsers query hlimits := lists_searchUsers h hlimits
  followers user := by
    refine ⟨_, fun e ↦ ?_, s.store.nodup_latestFollows (tellsApart_followers user),
      lists_latestFollows h (tellsApart_followers user)
      (fun f hf ↦ (h.grounded.follows f hf).1) "list followers"⟩
    rw [Store.mem_latestFollows, decide_eq_true_eq]
  following user := by
    refine ⟨_, fun e ↦ ?_, s.store.nodup_latestFollows (tellsApart_following user),
      lists_latestFollows h (tellsApart_following user)
      (fun f hf ↦ (h.grounded.follows f hf).2) "list following"⟩
    rw [Store.mem_latestFollows, decide_eq_true_eq]
  suggested := lists_suggested h
  notifications user := by
    refine ⟨s.store.inbox user, fun m ↦ Store.mem_inbox, lists_of_pages (fun _ ↦ lt_irrefl _)
      (s.store.pairwise_inbox user) (hdelivered.length_inbox_le user)
      (fun page ↦ Action.after_ask s _) fun {page} _ ↦ ?_⟩
    obtain ⟨found, hfound, hread⟩ := hdelivered.listNotifications_eq_ok h.equipped user page
    exact ⟨found, (Action.answer_ask_eq_ok_iff s).2 hfound, hread⟩

end Listings

theorem delivered_migrated : Store.migrated.Delivered where
  readable _ hm := absurd hm List.not_mem_nil
  numbered _ hm := absurd hm List.not_mem_nil
  counter := by decide

/-- **In every run the pages of a listing are windows on one list of rows**, in a strict order and
without repetitions. -/
theorem run_paged (capacity : Nat) (cached : Bool) (lifetimes : Lifetimes)
    (ops : List Operation) : ((start capacity cached lifetimes).run ops).Paged :=
  paged_of_orderly (run_readable capacity cached lifetimes ops).1
    (run_keeps Store.Delivered.change _ ops delivered_migrated)

/-! ## The limits are needed -/

/-- With too many words, not even a store without tweets has a first page to show. -/
theorem not_lists_manyWords : ¬∃ rows, (start 1 false ⟨0, 0⟩).Lists
    (Action.searchTweets (manyWords 997) · none) ((start 1 false ⟨0, 0⟩).store.Displays none)
    (fun t u ↦ u.id < t.id) rows := by
  rintro ⟨rows, hlists⟩
  obtain ⟨found, hfound, -⟩ := hlists.page (p := ⟨0, 20⟩) ⟨none, none, rfl⟩
  have hmany : Store.maxTerms ≤ (words (trim (manyWords 997))).length := by
    rw [trim_manyWords, words_manyWords, List.length_replicate]
    decide
  rw [Action.searchTweets_of_many Store.readable_migrated.equipped (queriedTag?_manyWords 997)
    hmany] at hfound
  cases hfound

end Social

end Microblog
