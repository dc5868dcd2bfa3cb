import Microblog.Proofs.Store.Grounded

/-!
# Counters

A tweet counts its likes, replies and retweets, an account those who follow it and those whom it
follows.  The statements keep these five counters by hand, beside the rows that they count.
`Store.CountersExact` says that they are right, and `Store.CountersExact.change` that they stay
right.

* A row that is added raises one counter of each row that it names.
* A deletion takes whole threads along and lowers one counter at most.  That is enough because of
  what goes, only the tweet where the deletion starts refers to a tweet that stays
  (`Store.TweetGraph.eq_root_of_refersTo`).
* No sum leaves the integers, because what is counted is told apart by numbers that have been given
  (`Store.Grounded`).
* A counter that is lowered was not zero, so that it never has to be kept from going below.
-/

set_option autoImplicit false

namespace Microblog

open Text

/-- A counter that can be lowered without going below zero. -/
def Cell.IsPositive (c : Cell) : Prop := ∃ n : Nat, c = .int (n + 1)

/-- The counter of a row that another one names. -/
theorem Rows.Tallied.isPositive {α β κ ι : Type} [Row α κ] [Row β ι] [DecidableEq κ]
    {rows : Rows α} {others : Rows β} {count : α → Cell} {column : β → Option κ}
    (h : rows.Tallied count (others.naming column)) {a : α} {b : β} (ha : a ∈ rows.list)
    (hb : b ∈ others.list) (hk : column b = some (Row.key a)) : (count a).IsPositive := by
  obtain ⟨n, hn⟩ := Nat.exists_eq_succ_of_ne_zero (Nat.ne_of_gt (naming_pos hb hk))
  exact ⟨n, by rw [h a ha, hn]; rfl⟩

namespace Store

variable {now : Nat} {s s' : Store}

/-- Every counter is the number of rows that it counts. -/
structure CountersExact (s : Store) : Prop where
  likes : s.tweets.Tallied StoredTweet.likeCount (s.likes.naming fun l ↦ some l.tweetId)
  replies : s.tweets.Tallied StoredTweet.replyCount (s.tweets.naming StoredTweet.parentId)
  retweets : s.tweets.Tallied StoredTweet.retweetCount (s.tweets.naming StoredTweet.retweetId)
  followers : s.users.Tallied StoredUser.followersCount
    (s.follows.naming fun f ↦ some f.followingId)
  following : s.users.Tallied StoredUser.followingCount
    (s.follows.naming fun f ↦ some f.followerId)

/-! ## Bounds -/

namespace Grounded

theorem fits_likes (h : Grounded s) (id : Int) :
    Decimal.Fits (s.likes.naming (fun l ↦ some l.tweetId) id) := by
  refine h.fits_accounts (g := Like.userId) s.likes.nodup.of_map
    (fun l hl m hm hlid hmid huser ↦ ?_) fun l hl ↦ (h.likes l hl).1
  simp only [Option.some.injEq, decide_eq_true_eq] at hlid hmid
  exact Rows.eq_of_key_eq hl hm (Prod.ext huser (hlid.trans hmid.symm))

theorem fits_followers (h : Grounded s) (id : Int) :
    Decimal.Fits (s.follows.naming (fun f ↦ some f.followingId) id) := by
  refine h.fits_accounts (g := Follow.followerId) s.follows.nodup.of_map
    (fun f hf g hg hfid hgid huser ↦ ?_) fun f hf ↦ (h.follows f hf).1
  simp only [Option.some.injEq, decide_eq_true_eq] at hfid hgid
  exact Rows.eq_of_key_eq hf hg (Prod.ext huser (hfid.trans hgid.symm))

theorem fits_following (h : Grounded s) (id : Int) :
    Decimal.Fits (s.follows.naming (fun f ↦ some f.followerId) id) := by
  refine h.fits_accounts (g := Follow.followingId) s.follows.nodup.of_map
    (fun f hf g hg hfid hgid huser ↦ ?_) fun f hf ↦ (h.follows f hf).2
  simp only [Option.some.injEq, decide_eq_true_eq] at hfid hgid
  exact Rows.eq_of_key_eq hf hg (Prod.ext (hfid.trans hgid.symm) huser)

/-! Nothing names a row that does not exist yet. -/

theorem not_has_newUser (h : Grounded s) : ¬s.users.has (s.counters.users + 1) = true := by
  intro hid
  have hrange := h.user_range hid
  omega

theorem not_has_newTweet (h : Grounded s) : ¬s.tweets.has (s.counters.tweets + 1) = true := by
  intro hid
  have hrange := h.tweet_range hid
  omega

theorem likes_new (h : Grounded s) :
    s.likes.naming (fun l ↦ some l.tweetId) (s.counters.tweets + 1) = 0 :=
  Rows.naming_eq_zero fun l hl hid ↦ h.not_has_newTweet (Option.some.inj hid ▸ (h.likes l hl).2)

theorem replies_new (h : Grounded s) :
    s.tweets.naming StoredTweet.parentId (s.counters.tweets + 1) = 0 :=
  Rows.naming_eq_zero fun t ht hid ↦ h.not_has_newTweet (h.parent t ht _ hid).1

theorem retweets_new (h : Grounded s) :
    s.tweets.naming StoredTweet.retweetId (s.counters.tweets + 1) = 0 :=
  Rows.naming_eq_zero fun t ht hid ↦ by
    obtain ⟨-, o, ho, hoid, -⟩ := h.original t ht _ hid
    exact h.not_has_newTweet (Rows.has_iff.2 ⟨o, ho, hoid⟩)

theorem followers_new (h : Grounded s) :
    s.follows.naming (fun f ↦ some f.followingId) (s.counters.users + 1) = 0 :=
  Rows.naming_eq_zero fun f hf hid ↦ h.not_has_newUser (Option.some.inj hid ▸ (h.follows f hf).2)

theorem following_new (h : Grounded s) :
    s.follows.naming (fun f ↦ some f.followerId) (s.counters.users + 1) = 0 :=
  Rows.naming_eq_zero fun f hf hid ↦ h.not_has_newUser (Option.some.inj hid ▸ (h.follows f hf).1)

end Grounded

namespace CountersExact

/-! ## Accounts -/

theorem register (h : CountersExact s) (hg : Grounded s) {new : NewUser} {time : String}
    {users : Rows StoredUser} (hlist : users.list = s.users.list ++ [s.newUser new time]) :
    CountersExact { s with users, counters.users := s.counters.users + 1 } where
  likes := h.likes
  replies := h.replies
  retweets := h.retweets
  followers := h.followers.append hlist <| by
    rw [show Row.key (s.newUser new time) = s.counters.users + 1 from rfl, hg.followers_new]
    rfl
  following := h.following.append hlist <| by
    rw [show Row.key (s.newUser new time) = s.counters.users + 1 from rfl, hg.following_new]
    rfl

theorem profile (h : CountersExact s) {id : Int} {f : StoredUser → StoredUser}
    {hkey : ∀ u, Row.key (f u) = Row.key u}
    (hf : ∀ u, (f u).followersCount = u.followersCount ∧ (f u).followingCount = u.followingCount) :
    CountersExact { s with users := s.users.changeAt id f hkey } where
  likes := h.likes
  replies := h.replies
  retweets := h.retweets
  followers := h.followers.changeAt_other hkey fun u ↦ (hf u).1
  following := h.following.changeAt_other hkey fun u ↦ (hf u).2

/-- A new follow raises one counter of each of the two accounts. -/
theorem follow (h : CountersExact s) {f : Follow} {follows : Rows Follow}
    (hg : Grounded { s with follows }) (hlist : follows.list = s.follows.list ++ [f]) :
    CountersExact (({ s with follows }.changeFollowing f.followerId Cell.increment).changeFollowers
      f.followingId Cell.increment) := by
  refine ⟨h.likes, h.replies, h.retweets, ?_, ?_⟩
  · refine Rows.Tallied.increment ?_ (Rows.Tallied.changeAt_other ?_ h.followers ?_) ?_
      (fun _ _ ↦ Rows.naming_append hlist) (hg.fits_followers _) <;> exact fun _ ↦ rfl
  · refine Rows.Tallied.changeAt_other ?_ (Rows.Tallied.increment ?_ h.following ?_
      (fun _ _ ↦ Rows.naming_append hlist) (hg.fits_following _)) ?_ <;> exact fun _ ↦ rfl

/-- A follow that is taken back lowers them. -/
theorem unfollow (h : CountersExact s) (hg : Grounded s) {f : Follow} (hf : f ∈ s.follows.list)
    {p : Follow → Bool} (hp : ∀ g ∈ s.follows.list, p g = false ↔ g = f) :
    CountersExact (({ s with follows := s.follows.keep p }.changeFollowing f.followerId
      Cell.decrement).changeFollowers f.followingId Cell.decrement) := by
  have hgone : p f = false := (hp f hf).2 rfl
  have honly : ∀ g ∈ s.follows.list, p g = false → g = f := fun g hg ↦ (hp g hg).1
  have hkept : Grounded { s with follows := s.follows.keep p } := hg.step .keepFollows
  refine ⟨h.likes, h.replies, h.retweets, ?_, ?_⟩
  · refine Rows.Tallied.decrement ?_ (Rows.Tallied.changeAt_other ?_ h.followers ?_) ?_
      (fun _ _ ↦ Rows.naming_keep hf hgone fun g hg _ ↦ honly g hg) (hkept.fits_followers _) <;>
      exact fun _ ↦ rfl
  · refine Rows.Tallied.changeAt_other ?_ (Rows.Tallied.decrement ?_ h.following ?_
      (fun _ _ ↦ Rows.naming_keep hf hgone fun g hg _ ↦ honly g hg) (hkept.fits_following _)) ?_ <;>
      exact fun _ ↦ rfl

/-! ## Likes -/

/-- A new like raises the counter of its tweet. -/
theorem like (h : CountersExact s) {l : Like} {likes : Rows Like}
    (hg : Grounded { s with likes }) (hlist : likes.list = s.likes.list ++ [l]) :
    CountersExact ({ s with likes }.changeLikes l.tweetId Cell.increment) := by
  refine ⟨?_, ?_, ?_, h.followers, h.following⟩
  · refine Rows.Tallied.increment ?_ h.likes ?_ (fun _ _ ↦ Rows.naming_append hlist)
      (hg.fits_likes _) <;> exact fun _ ↦ rfl
  · refine Rows.Tallied.changeAt_self ?_ h.replies ?_ ?_ <;> exact fun _ ↦ rfl
  · refine Rows.Tallied.changeAt_self ?_ h.retweets ?_ ?_ <;> exact fun _ ↦ rfl

/-- A like that is taken back lowers it. -/
theorem unlike (h : CountersExact s) (hg : Grounded s) {l : Like} (hl : l ∈ s.likes.list)
    {p : Like → Bool} (hp : ∀ m ∈ s.likes.list, p m = false ↔ m = l) :
    CountersExact ({ s with likes := s.likes.keep p }.changeLikes l.tweetId Cell.decrement) := by
  have hkept : Grounded { s with likes := s.likes.keep p } := hg.step .keepLikes
  refine ⟨?_, ?_, ?_, h.followers, h.following⟩
  · refine Rows.Tallied.decrement ?_ h.likes ?_
      (fun _ _ ↦ Rows.naming_keep hl ((hp l hl).2 rfl) fun m hm _ ↦ (hp m hm).1)
      (hkept.fits_likes _) <;> exact fun _ ↦ rfl
  · refine Rows.Tallied.changeAt_self ?_ h.replies ?_ ?_ <;> exact fun _ ↦ rfl
  · refine Rows.Tallied.changeAt_self ?_ h.retweets ?_ ?_ <;> exact fun _ ↦ rfl

/-! ## Posting

A tweet is inserted with its counters at zero, which is right for it: nothing names it yet.  Until
the counter of the tweet that it refers to is raised, the counters are those of the rows that were
there before. -/

section Posting

variable {user : Int} {content : Option String} {parent target : Option Int}
  {tweets : Rows StoredTweet}

theorem posted_likes (h : CountersExact s) (hg : Grounded s)
    (hposted : s.Posted user content parent target tweets) :
    tweets.Tallied StoredTweet.likeCount (s.likes.naming fun l ↦ some l.tweetId) := by
  obtain ⟨time, hlist⟩ := hposted.list
  exact h.likes.append hlist (congrArg (fun n : Nat ↦ Cell.int n) hg.likes_new.symm)

theorem posted_replies (h : CountersExact s) (hg : Grounded s)
    (hposted : s.Posted user content parent target tweets) :
    tweets.Tallied StoredTweet.replyCount (s.tweets.naming StoredTweet.parentId) := by
  obtain ⟨time, hlist⟩ := hposted.list
  exact h.replies.append hlist (congrArg (fun n : Nat ↦ Cell.int n) hg.replies_new.symm)

theorem posted_retweets (h : CountersExact s) (hg : Grounded s)
    (hposted : s.Posted user content parent target tweets) :
    tweets.Tallied StoredTweet.retweetCount (s.tweets.naming StoredTweet.retweetId) := by
  obtain ⟨time, hlist⟩ := hposted.list
  exact h.retweets.append hlist (congrArg (fun n : Nat ↦ Cell.int n) hg.retweets_new.symm)

theorem naming_parentId_posted (hposted : s.Posted user content parent target tweets) (id : Int) :
    tweets.naming StoredTweet.parentId id =
      s.tweets.naming StoredTweet.parentId id + if parent = some id then 1 else 0 := by
  obtain ⟨time, hlist⟩ := hposted.list
  exact Rows.naming_append hlist

theorem naming_retweetId_posted (hposted : s.Posted user content parent target tweets) (id : Int) :
    tweets.naming StoredTweet.retweetId id =
      s.tweets.naming StoredTweet.retweetId id + if target = some id then 1 else 0 := by
  obtain ⟨time, hlist⟩ := hposted.list
  exact Rows.naming_append hlist

/-- A post, which raises the counter of replies of the tweet that it answers. -/
theorem post (h : CountersExact s) (hg : Grounded s)
    (hposted : s.Posted user content parent none tweets) (hg' : Grounded (s.withPosted tweets)) :
    CountersExact (parent.elim (s.withPosted tweets) fun p ↦
      (s.withPosted tweets).changeReplies p Cell.increment) := by
  have hlikes := h.posted_likes hg hposted
  have hreplies := h.posted_replies hg hposted
  have hretweets : tweets.Tallied StoredTweet.retweetCount (tweets.naming StoredTweet.retweetId) :=
    (h.posted_retweets hg hposted).congr fun t _ ↦ naming_retweetId_posted hposted _
  cases parent with
  | none =>
    have hnone : tweets.Tallied StoredTweet.replyCount (tweets.naming StoredTweet.parentId) :=
      hreplies.congr fun t _ ↦ naming_parentId_posted hposted _
    exact ⟨hlikes, hnone, hretweets, h.followers, h.following⟩
  | some p =>
    refine ⟨?_, ?_, ?_, h.followers, h.following⟩
    · refine Rows.Tallied.changeAt_other ?_ hlikes ?_ <;> exact fun _ ↦ rfl
    · refine Rows.Tallied.recounted ?_ ?_ (Rows.Tallied.increment ?_ hreplies ?_
        (fun t _ ↦ naming_parentId_posted hposted _) (hg'.fits_tweets _)) <;> exact fun _ ↦ rfl
    · refine Rows.Tallied.changeAt_self ?_ hretweets ?_ ?_ <;> exact fun _ ↦ rfl

/-- A retweet, which raises the counter of retweets of the tweet that it points at. -/
theorem retweet (h : CountersExact s) (hg : Grounded s) {r : Int}
    (hposted : s.Posted user none none (some r) tweets) (hg' : Grounded (s.withPosted tweets)) :
    CountersExact ((s.withPosted tweets).changeRetweets r Cell.increment) := by
  have hlikes := h.posted_likes hg hposted
  have hretweets := h.posted_retweets hg hposted
  have hreplies : tweets.Tallied StoredTweet.replyCount (tweets.naming StoredTweet.parentId) :=
    (h.posted_replies hg hposted).congr fun t _ ↦ naming_parentId_posted hposted _
  refine ⟨?_, ?_, ?_, h.followers, h.following⟩
  · refine Rows.Tallied.changeAt_other ?_ hlikes ?_ <;> exact fun _ ↦ rfl
  · refine Rows.Tallied.changeAt_self ?_ hreplies ?_ ?_ <;> exact fun _ ↦ rfl
  · refine Rows.Tallied.recounted ?_ ?_ (Rows.Tallied.increment ?_ hretweets ?_
      (fun t _ ↦ naming_retweetId_posted hposted _) (hg'.fits_tweets _)) <;> exact fun _ ↦ rfl

end Posting

/-! ## Deleting

What goes away with a tweet are whole threads.  Only the tweet itself may have referred to something
that stays, so one counter is out by one, and no other. -/

section Deleting

variable {t : StoredTweet} {D : List Int}

/-- No like of a tweet that stays goes away. -/
theorem without_likes (h : CountersExact s) (D : List Int) :
    (s.withoutTweets D).tweets.Tallied StoredTweet.likeCount
      ((s.withoutTweets D).likes.naming fun l ↦ some l.tweetId) := by
  refine h.likes.keep.congr fun u hu ↦ Rows.naming_keep_eq fun l _ hl ↦ ?_
  rw [Option.some.inj hl]
  exact (Rows.mem_keep.1 hu).2

variable (hg : Grounded s) (ht : t ∈ s.tweets.list)
  (hD : ∀ d, d ∈ D ↔ StoredTweet.Doomed s.tweets.list [t.id] d)

include hg ht hD

/-- Of the tweets that name one that stays, only the first one goes. -/
theorem naming_without {column : StoredTweet → Option Int}
    (hcolumn : ∀ u d, column u = some d → u.RefersTo d) {u : StoredTweet}
    (hu : u ∈ (s.withoutTweets D).tweets.list) :
    s.tweets.naming column u.id =
      (s.withoutTweets D).tweets.naming column u.id + if column t = some u.id then 1 else 0 := by
  have hgone : ∀ {i : Int}, (!D.contains i) = false ↔
      StoredTweet.Doomed s.tweets.list [t.id] i := by
    intro i
    rw [Bool.not_eq_false', List.contains_iff_mem, hD]
  have hstays : ¬StoredTweet.Doomed s.tweets.list [t.id] u.id := by
    rw [← hgone, Bool.not_eq_false]
    exact (Rows.mem_keep.1 hu).2
  refine Rows.naming_keep ht (hgone.2 (.root (List.mem_singleton.2 rfl))) fun v hv hcol hv' ↦ ?_
  exact hg.eq_root_of_refersTo ht hv (hgone.1 hv') (hcolumn v _ hcol) hstays

theorem naming_parentId_without {u : StoredTweet} (hu : u ∈ (s.withoutTweets D).tweets.list) :
    s.tweets.naming StoredTweet.parentId (Row.key u) =
      (s.withoutTweets D).tweets.naming StoredTweet.parentId (Row.key u) +
        if t.parentId = some (Row.key u) then 1 else 0 :=
  naming_without hg ht hD (fun _ _ ↦ .inl) hu

theorem naming_retweetId_without {u : StoredTweet} (hu : u ∈ (s.withoutTweets D).tweets.list) :
    s.tweets.naming StoredTweet.retweetId (Row.key u) =
      (s.withoutTweets D).tweets.naming StoredTweet.retweetId (Row.key u) +
        if t.retweetId = some (Row.key u) then 1 else 0 :=
  naming_without hg ht hD (fun _ _ ↦ .inr) hu

/-- The deletion of a tweet that is no record lowers the counter of what it answers. -/
theorem delete (h : CountersExact s) (hplain : t.retweetId = none) :
    CountersExact (t.parentId.elim (s.withoutTweets D) fun p ↦
      (s.withoutTweets D).changeReplies p Cell.decrement) := by
  have hg' : Grounded (s.withoutTweets D) := hg.step (.withoutDoomed hD)
  have hlikes := h.without_likes D
  have hreplies : (s.withoutTweets D).tweets.Tallied StoredTweet.replyCount
      (s.tweets.naming StoredTweet.parentId) := h.replies.keep
  have hdown := fun u hu ↦ naming_parentId_without hg ht hD (u := u) hu
  have hretweets : (s.withoutTweets D).tweets.Tallied StoredTweet.retweetCount
      ((s.withoutTweets D).tweets.naming StoredTweet.retweetId) := by
    refine h.retweets.keep.congr fun u hu ↦ ?_
    rw [naming_retweetId_without hg ht hD hu, hplain]
    rfl
  cases hp : t.parentId with
  | none =>
    refine ⟨hlikes, hreplies.congr fun u hu ↦ ?_, hretweets, h.followers, h.following⟩
    rw [hdown u hu, hp]
    rfl
  | some p =>
    rw [hp] at hdown
    refine ⟨?_, ?_, ?_, h.followers, h.following⟩
    · refine Rows.Tallied.changeAt_other ?_ hlikes ?_ <;> exact fun _ ↦ rfl
    · refine Rows.Tallied.recounted ?_ ?_ (Rows.Tallied.decrement ?_ hreplies ?_ hdown
        (hg'.fits_tweets _)) <;> exact fun _ ↦ rfl
    · refine Rows.Tallied.changeAt_self ?_ hretweets ?_ ?_ <;> exact fun _ ↦ rfl

/-- The deletion of a record lowers the counter of what it points at. -/
theorem undo (h : CountersExact s) {r : Int} (hr : t.retweetId = some r) :
    CountersExact ((s.withoutTweets D).changeRetweets r Cell.decrement) := by
  have hg' : Grounded (s.withoutTweets D) := hg.step (.withoutDoomed hD)
  have hlikes := h.without_likes D
  have hretweets : (s.withoutTweets D).tweets.Tallied StoredTweet.retweetCount
      (s.tweets.naming StoredTweet.retweetId) := h.retweets.keep
  have hdown := fun u hu ↦ naming_retweetId_without hg ht hD (u := u) hu
  rw [hr] at hdown
  have hplain : t.parentId = none :=
    (hg.either t ht).resolve_right fun hnone ↦ by simp [hr] at hnone
  have hreplies : (s.withoutTweets D).tweets.Tallied StoredTweet.replyCount
      ((s.withoutTweets D).tweets.naming StoredTweet.parentId) := by
    refine h.replies.keep.congr fun u hu ↦ ?_
    rw [naming_parentId_without hg ht hD hu, hplain]
    rfl
  refine ⟨?_, ?_, ?_, h.followers, h.following⟩
  · refine Rows.Tallied.changeAt_other ?_ hlikes ?_ <;> exact fun _ ↦ rfl
  · refine Rows.Tallied.changeAt_self ?_ hreplies ?_ ?_ <;> exact fun _ ↦ rfl
  · refine Rows.Tallied.recounted ?_ ?_ (Rows.Tallied.decrement ?_ hretweets ?_ hdown
      (hg'.fits_tweets _)) <;> exact fun _ ↦ rfl

end Deleting

/-! ## Every statement -/

/-- **Whatever the application writes, the counters stay right.** -/
theorem change (hchange : Change now s s') (hg : Grounded s) (h : CountersExact s) :
    CountersExact s' := by
  cases hchange with
  | register hs =>
    obtain ⟨_, _, -, hlist, rfl⟩ := of_createUser hs
    exact h.register hg hlist
  | post seen hs =>
    obtain ⟨_, hposted, rfl⟩ := of_createTweet hs
    exact h.post hg hposted
      (hg.step (.post hposted seen (fun _ hr ↦ nomatch hr) (.inr rfl)))
  | delete seen hs =>
    rcases of_deleteTweet hs with ⟨-, rfl⟩ | ⟨-, t, ht, rfl, -, D, hD, rfl⟩
    · exact h
    · exact delete hg ht hD h (seen t ht rfl)
  | retweet seen hs =>
    rcases of_createRetweet hs with rfl | ⟨_, hposted, rfl⟩
    · exact h
    · exact h.retweet hg hposted (hg.step (.post hposted (fun _ hp ↦ nomatch hp)
        (fun _ hr ↦ Option.some.inj hr ▸ seen) (.inl rfl)))
  | @undo user target _ _ hs =>
    rcases of_deleteRetweet hs with ⟨-, rfl⟩ | ⟨-, r, hr, rfl, htarget, D, hD, rfl⟩
    · exact h
    · -- nobody has two records of one tweet, so that the deletion starts at a single one
      have hone : (s.tweets.list.filter fun t ↦
          decide (t.userId = r.userId ∧ t.retweetId = some target)) = [r] := by
        refine Rows.filter_eq_singleton hr fun t ht ↦ ?_
        rw [decide_eq_true_eq]
        refine ⟨fun ⟨huser, hid⟩ ↦ hg.once t ht r hr target hid htarget huser, ?_⟩
        rintro rfl
        exact ⟨rfl, htarget⟩
      rw [hone] at hD
      exact undo hg hr hD h htarget
  | like hs =>
    rcases of_like hs with ⟨-, rfl⟩ | ⟨-, l, likes, rfl, rfl, huser, htweet, hlist, rfl⟩
    · exact h
    · exact h.like (hg.step (.addLike huser htweet hlist)) hlist
  | unlike hs =>
    rcases of_unlike hs with ⟨-, rfl⟩ | ⟨-, l, hl, rfl, rfl, rfl⟩
    · exact h
    · refine h.unlike hg hl fun m hm ↦ ?_
      rw [Bool.not_eq_false', decide_eq_true_eq]
      exact ⟨fun ⟨huser, htweet⟩ ↦ Rows.eq_of_key_eq hm hl (Prod.ext huser htweet),
        fun hml ↦ hml ▸ ⟨rfl, rfl⟩⟩
  | follow hs =>
    rcases of_follow hs with ⟨-, rfl⟩ | ⟨-, f, follows, rfl, rfl, hne, hfollower, hfollowing, hlist,
      rfl⟩
    · exact h
    · exact h.follow (hg.step (.addFollow hne hfollower hfollowing hlist)) hlist
  | unfollow hs =>
    rcases of_unfollow hs with ⟨-, rfl⟩ | ⟨-, f, hf, rfl, rfl, rfl⟩
    · exact h
    · refine h.unfollow hg hf fun g hg' ↦ ?_
      rw [Bool.not_eq_false', decide_eq_true_eq]
      exact ⟨fun ⟨hfollower, hfollowing⟩ ↦
        Rows.eq_of_key_eq hg' hf (Prod.ext hfollower hfollowing), fun hgf ↦ hgf ▸ ⟨rfl, rfl⟩⟩
  | profile hs =>
    rcases of_writeProfile hs with ⟨-, rfl⟩ | ⟨-, _, rfl⟩
    · exact h
    · exact h.profile fun _ ↦ ⟨rfl, rfl⟩
  | notify hs =>
    obtain ⟨_, _, -, -, -, -, -, -, rfl⟩ := of_createNotification hs
    exact ⟨h.likes, h.replies, h.retweets, h.followers, h.following⟩
  | markRead hs =>
    obtain ⟨-, rfl⟩ := of_markRead hs
    exact ⟨h.likes, h.replies, h.retweets, h.followers, h.following⟩
  | tag hs =>
    rcases of_addTag hs with rfl | ⟨_, _, -, -, -, rfl⟩ <;>
      exact ⟨h.likes, h.replies, h.retweets, h.followers, h.following⟩
  | link hs =>
    rcases of_linkTag hs with rfl | ⟨_, _, -, -, -, -, -, rfl⟩
    · exact h
    · exact ⟨h.likes, h.replies, h.retweets, h.followers, h.following⟩

end CountersExact

/-! ## Lowering a counter -/

/-- No statement lowers a counter that is at zero. -/
structure Unclamped (s : Store) : Prop where
  unlike : ∀ user tweet s', s.unlike user tweet = .ok (true, s') →
    ∀ t ∈ s.tweets.list, t.id = tweet → t.likeCount.IsPositive
  deleteTweet : ∀ id user s', s.deleteTweet id user = .ok (true, s') →
    ∀ t ∈ s.tweets.list, t.id = id → ∀ p ∈ s.tweets.list, t.parentId = some p.id →
      p.replyCount.IsPositive
  deleteRetweet : ∀ user target s', s.deleteRetweet user target = .ok (true, s') →
    ∀ o ∈ s.tweets.list, o.id = target → o.retweetCount.IsPositive
  unfollow : ∀ follower target s', s.unfollow follower target = .ok (true, s') →
    ∀ u ∈ s.users.list, (u.id = follower → u.followingCount.IsPositive) ∧
      (u.id = target → u.followersCount.IsPositive)

/-- Right counters are never lowered below zero: the row that goes is still counted. -/
theorem CountersExact.unclamped (h : CountersExact s) : Unclamped s where
  unlike user tweet s' hs t ht hid := by
    obtain ⟨hb, -⟩ | ⟨-, l, hl, -, htweet, -⟩ := of_unlike hs
    · exact absurd hb Bool.true_eq_false.mp
    · exact h.likes.isPositive ht hl (congrArg some (htweet.trans hid.symm))
  deleteTweet id user s' _ t ht _ p hp hparent := h.replies.isPositive hp ht hparent
  deleteRetweet user target s' hs o ho hid := by
    obtain ⟨hb, -⟩ | ⟨-, r, hr, -, htarget, -⟩ := of_deleteRetweet hs
    · exact absurd hb Bool.true_eq_false.mp
    · exact h.retweets.isPositive ho hr (htarget.trans (congrArg some hid.symm))
  unfollow follower target s' hs u hu := by
    obtain ⟨hb, -⟩ | ⟨-, f, hf, hfollower, hfollowing, -⟩ := of_unfollow hs
    · exact absurd hb Bool.true_eq_false.mp
    · exact ⟨fun hid ↦ h.following.isPositive hu hf (congrArg some (hfollower.trans hid.symm)),
        fun hid ↦ h.followers.isPositive hu hf (congrArg some (hfollowing.trans hid.symm))⟩

end Store

end Microblog
