import Microblog.Proofs.Social.Deleting

/-!
# Statements done twice and undone

A like, a follow or a retweet is one row and what counts it.  A statement that is to add what is
there, or to take out what is not there, does nothing.  After one that has added a row, the opposite
one takes just that row out and lowers what was raised, so that the tables are what they were.

The counters need no arithmetic: before and afterwards they count the same rows
(`Store.CountersExact`), and nothing else of a row is touched.

* Somebody may be told in between, so that all is said up to notifications and numbers that are
  given: `Store.Resembles`.
* A retweet record is a tweet itself.  That it goes alone is so because nothing can refer to it yet
  (`Store.Recorded.free`).
-/

set_option autoImplicit false

namespace Microblog

open Text

namespace Store

variable {now now' : Nat} {s s' s₁ s'' : Store} {user tweet follower target : Int} {b b' : Bool}

/-! ## Stores that differ in notifications -/

/-- The two stores have the same rows, but for notifications; what numbers were given may differ,
too. -/
def Resembles (s s' : Store) : Prop :=
  ∃ notifications counters, s' = { s with notifications, counters }

namespace Resembles

theorem refl (s : Store) : s.Resembles s := ⟨_, _, rfl⟩

theorem trans (h : s.Resembles s') (h' : s'.Resembles s'') : s.Resembles s'' := by
  obtain ⟨_, _, rfl⟩ := h
  obtain ⟨notifications, counters, rfl⟩ := h'
  exact ⟨notifications, counters, rfl⟩

theorem of_tables (hschema : s'.schema = s.schema) (husers : s'.users = s.users)
    (htweets : s'.tweets = s.tweets) (hlikes : s'.likes = s.likes)
    (hfollows : s'.follows = s.follows) (hhashtags : s'.hashtags = s.hashtags)
    (hlinks : s'.tagLinks = s.tagLinks) : s.Resembles s' := by
  refine ⟨s'.notifications, s'.counters, ?_⟩
  rw [← hschema, ← husers, ← htweets, ← hlikes, ← hfollows, ← hhashtags, ← hlinks]

end Resembles

/-! ## Likes -/

/-- A like that is not added was there before. -/
theorem has_of_like_false (h : s.Readable) (huser : s.users.has user = true)
    (htweet : s.tweets.has tweet = true) (hrun : s.like now user tweet = .ok (false, s')) :
    s.likes.has (user, tweet) = true := by
  obtain ⟨l, hl, hluser, hltweet⟩ := liking_of_not_added h huser htweet hrun
  exact Rows.has_iff.2 ⟨l, hl, Prod.ext (Option.some.inj hluser) hltweet⟩

/-- Who likes a tweet for the second time does nothing. -/
theorem like_twice (h : s.Readable) (hrun : s.like now user tweet = .ok (b, s'))
    (hsame : s'.Resembles s₁) (hrun' : s₁.like now' user tweet = .ok (b', s'')) :
    b' = false ∧ s'' = s₁ := by
  refine (of_like hrun').resolve_right ?_
  rintro ⟨rfl, l, likes, rfl, rfl, huser, htweet, hlist, -⟩
  obtain ⟨_, _, rfl⟩ := hsame
  have hfree : s'.likes.has (l.userId, l.tweetId) = false := (Rows.has_new hlist).1
  rcases of_like hrun with ⟨rfl, rfl⟩ | ⟨rfl, l', likes', hluser, hltweet, -, -, hlist', rfl⟩
  · cases (has_of_like_false h huser htweet hrun).symm.trans hfree
  · have hthere : likes'.has (l'.userId, l'.tweetId) = true := (Rows.has_new hlist').2
    rw [hluser, hltweet] at hthere
    cases hthere.symm.trans hfree

/-- Who likes a tweet no longer, and says so for the second time, does nothing. -/
theorem unlike_twice (hrun : s.unlike user tweet = .ok (b, s')) (hsame : s'.Resembles s₁)
    (hrun' : s₁.unlike user tweet = .ok (b', s'')) : b' = false ∧ s'' = s₁ := by
  refine (of_unlike hrun').resolve_right ?_
  rintro ⟨-, l, hl, huser, htweet, -⟩
  obtain ⟨_, _, rfl⟩ := hsame
  rw [likes_of_unlike hrun, Rows.mem_keep] at hl
  simp [huser, htweet] at hl

/-- Where there is no such like, there is none to take back. -/
theorem unlike_of_free (hrun : s.unlike user tweet = .ok (b, s'))
    (hnot : s.likes.has (user, tweet) = false) : s' = s := by
  rcases of_unlike hrun with ⟨-, rfl⟩ | ⟨-, l, hl, rfl, rfl, -⟩
  · rfl
  · cases hnot.symm.trans (Rows.has_iff.2 ⟨l, hl, rfl⟩)

/-- Liking a tweet that one does not like, and then no longer, leaves everything as it was. -/
theorem unlike_like (h : s.CountersExact) (hnot : s.likes.has (user, tweet) = false)
    (hrun : s.like now user tweet = .ok (b, s')) (hsame : s'.Resembles s₁)
    (hrun' : s₁.unlike user tweet = .ok (b', s'')) (h'' : s''.CountersExact) :
    s.Resembles s'' := by
  obtain ⟨_, _, rfl⟩ := hsame
  rcases of_like hrun with ⟨rfl, rfl⟩ | ⟨rfl, l, likes, rfl, rfl, -, -, hlist, rfl⟩
  · rw [unlike_of_free hrun' hnot]
    exact ⟨_, _, rfl⟩
  have hback : s''.likes = s.likes := by
    rw [likes_of_unlike hrun']
    refine Rows.keep_new hlist (by simp) fun m hm ↦ ?_
    rw [Bool.not_eq_true', decide_eq_false_iff_not]
    rintro ⟨huser, htweet⟩
    exact Bool.false_ne_true
      (hnot.symm.trans (Rows.has_iff.2 ⟨m, hm, Prod.ext huser htweet⟩))
  have hcount : s''.tweets.Tallied StoredTweet.likeCount (s.likes.naming fun l ↦ some l.tweetId) :=
    hback ▸ h''.likes
  rcases of_unlike hrun' with ⟨-, rfl⟩ | ⟨-, -, -, -, -, hs''⟩
  · have hback : likes = s.likes := hback
    have hnew := Rows.has_new hlist
    rw [hback] at hnew
    cases hnew.1.symm.trans hnew.2
  have hmap : s''.tweets.list = s.tweets.list.map fun t ↦
      if t.id = l.tweetId then { t with likeCount := t.likeCount.increment.decrement } else t := by
    rw [hs'']
    refine List.map_map.trans (List.map_congr_left fun t _ ↦ ?_)
    by_cases hid : t.id = l.tweetId <;> simp [Row.key, hid]
  have htweets : s''.tweets = s.tweets := h.likes.restored hcount hmap (fun _ ↦ rfl) fun t ht ↦
    congrArg (fun c ↦ { t with likeCount := c }) ht
  rw [hs''] at hback htweets ⊢
  exact .of_tables rfl rfl htweets hback rfl rfl rfl

/-! ## Follows -/

/-- A follow that is not added was there before. -/
theorem has_of_follow_false (h : s.Readable) (hother : follower ≠ target)
    (hfollower : s.users.has follower = true) (htarget : s.users.has target = true)
    (hrun : s.follow now follower target = .ok (false, s')) :
    s.follows.has (follower, target) = true := by
  cases hinsert : s.insertFollow {
      followerId := some (.int follower)
      followingId := some (.int target)
      createdAt := some (stamp now) } with
  | ok added =>
    rw [follow, hinsert] at hrun
    cases hrun
  | error c =>
    rcases of_insertFollow_error h hinsert with ⟨-, hself | htaken⟩ | hmissing
    · exact absurd hself hother
    · exact htaken
    · exact absurd ⟨hfollower, htarget⟩ hmissing

theorem follows_of_unfollow (hrun : s.unfollow follower target = .ok (b, s')) :
    s'.follows = s.follows.keep fun f ↦ !(f.followerId = follower ∧ f.followingId = target) := by
  simp only [unfollow, deleteFollows, bind_eq_ok_iff, during_eq_ok_iff, pure_eq_ok_iff] at hrun
  obtain ⟨_, ⟨-, -, rfl⟩, hrun⟩ := hrun
  split at hrun <;> cases hrun <;> rfl

/-- Who follows somebody for the second time does nothing. -/
theorem follow_twice (h : s.Readable)
    (hrun : s.follow now follower target = .ok (b, s')) (hsame : s'.Resembles s₁)
    (hrun' : s₁.follow now' follower target = .ok (b', s'')) : b' = false ∧ s'' = s₁ := by
  refine (of_follow hrun').resolve_right ?_
  rintro ⟨rfl, f, follows, rfl, rfl, hother, hfollower, htarget, hlist, -⟩
  obtain ⟨_, _, rfl⟩ := hsame
  have hfree : s'.follows.has (f.followerId, f.followingId) = false := (Rows.has_new hlist).1
  rcases of_follow hrun with
    ⟨rfl, rfl⟩ | ⟨rfl, f', follows', hffollower, hftarget, -, -, -, hlist', rfl⟩
  · cases (has_of_follow_false h hother hfollower htarget hrun).symm.trans hfree
  · have hthere : follows'.has (f'.followerId, f'.followingId) = true := (Rows.has_new hlist').2
    rw [hffollower, hftarget] at hthere
    cases hthere.symm.trans hfree

/-- Who follows somebody no longer, and says so for the second time, does nothing. -/
theorem unfollow_twice (hrun : s.unfollow follower target = .ok (b, s'))
    (hsame : s'.Resembles s₁) (hrun' : s₁.unfollow follower target = .ok (b', s'')) :
    b' = false ∧ s'' = s₁ := by
  refine (of_unfollow hrun').resolve_right ?_
  rintro ⟨-, f, hf, hfollower, htarget, -⟩
  obtain ⟨_, _, rfl⟩ := hsame
  rw [follows_of_unfollow hrun, Rows.mem_keep] at hf
  simp [hfollower, htarget] at hf

/-- Where there is no such follow, there is none to take back. -/
theorem unfollow_of_free (hrun : s.unfollow follower target = .ok (b, s'))
    (hnot : s.follows.has (follower, target) = false) : s' = s := by
  rcases of_unfollow hrun with ⟨-, rfl⟩ | ⟨-, f, hf, rfl, rfl, -⟩
  · rfl
  · cases hnot.symm.trans (Rows.has_iff.2 ⟨f, hf, rfl⟩)

/-- Following somebody whom one does not follow, and then no longer, leaves everything as it was. -/
theorem unfollow_follow (h : s.CountersExact) (hnot : s.follows.has (follower, target) = false)
    (hrun : s.follow now follower target = .ok (b, s')) (hsame : s'.Resembles s₁)
    (hrun' : s₁.unfollow follower target = .ok (b', s'')) (h'' : s''.CountersExact) :
    s.Resembles s'' := by
  obtain ⟨_, _, rfl⟩ := hsame
  rcases of_follow hrun with ⟨rfl, rfl⟩ | ⟨rfl, f, follows, rfl, rfl, hother, -, -, hlist, rfl⟩
  · rw [unfollow_of_free hrun' hnot]
    exact ⟨_, _, rfl⟩
  have hback : s''.follows = s.follows := by
    rw [follows_of_unfollow hrun']
    refine Rows.keep_new hlist (by simp) fun g hg ↦ ?_
    rw [Bool.not_eq_true', decide_eq_false_iff_not]
    rintro ⟨hfollower, htarget⟩
    exact Bool.false_ne_true
      (hnot.symm.trans (Rows.has_iff.2 ⟨g, hg, Prod.ext hfollower htarget⟩))
  have hfollowing : s''.users.Tallied StoredUser.followingCount
      (s.follows.naming fun f ↦ some f.followerId) := hback ▸ h''.following
  have hfollowers : s''.users.Tallied StoredUser.followersCount
      (s.follows.naming fun f ↦ some f.followingId) := hback ▸ h''.followers
  rcases of_unfollow hrun' with ⟨-, rfl⟩ | ⟨-, -, -, -, -, hs''⟩
  · have hback : follows = s.follows := hback
    have hnew := Rows.has_new hlist
    rw [hback] at hnew
    cases hnew.1.symm.trans hnew.2
  have hmap : s''.users.list = s.users.list.map fun u ↦
      { u with
        followingCount := if u.id = f.followerId then u.followingCount.increment.decrement
          else u.followingCount
        followersCount := if u.id = f.followingId then u.followersCount.increment.decrement
          else u.followersCount } := by
    rw [hs'']
    simp only [changeFollowers, changeFollowing, Rows.list_changeAt, List.map_map]
    refine List.map_congr_left fun u _ ↦ ?_
    by_cases hfollower : u.id = f.followerId
    · simp [Row.key, hfollower, hother]
    · by_cases hfollowed : u.id = f.followingId
      · simp [Row.key, hfollowed, hother.symm]
      · simp [Row.key, hfollower, hfollowed]
  have husers : s''.users = s.users := Rows.eq_of_map hmap fun u hu ↦ by
    have hone := h.following.count_map hfollowing hmap (fun _ ↦ rfl) u hu
    have htwo := h.followers.count_map hfollowers hmap (fun _ ↦ rfl) u hu
    dsimp only at hone htwo ⊢
    rw [hone, htwo]
  rw [hs''] at hback husers ⊢
  exact .of_tables rfl husers rfl rfl hback rfl rfl

/-! ## Retweets -/

/-- Where nobody refers to some tweets, nothing goes away with them. -/
theorem doomed_of_free {ids : List Int} (h : ∀ t ∈ s.tweets.list, ∀ d ∈ ids, ¬t.RefersTo d) :
    s.doomed ids = .ok ids := by
  have hnone : (s.tweets.list.filter fun t ↦ t.hangsOn ids && !ids.contains t.id) = [] := by
    refine List.filter_eq_nil_iff.2 fun t ht hhangs ↦ ?_
    rw [Bool.and_eq_true, StoredTweet.hangsOn_iff] at hhangs
    obtain ⟨⟨d, hd, href⟩, -⟩ := hhangs
    exact h t ht d hd href
  rw [doomed, StoredTweet.spread?.eq_def]
  dsimp only
  rw [hnone]
  rfl

/-- A retweet is taken back unless something else would go away with it. -/
theorem exists_deleteRetweet (h : s.Readable)
    (hfree : ∀ r ∈ s.tweets.list, r.userId = user → r.retweetId = some target →
      ∀ t ∈ s.tweets.list, ¬t.RefersTo r.id) :
    ∃ b s', s.deleteRetweet user target = .ok (b, s') := by
  cases hrun : s.deleteRetweet user target with
  | ok done => exact ⟨_, _, rfl⟩
  | error e =>
    simp only [deleteRetweet, bind_eq_error_iff, during_eq_error_iff] at hrun
    rcases hrun with ⟨c, hdelete, -⟩ | ⟨⟨n, s'⟩, -, hfail⟩
    · have hfails := doomed_of_deleteTweets_error h hdelete
      rw [doomed_of_free] at hfails
      · cases hfails
      · intro t ht d hd
        obtain ⟨r, hr, rfl⟩ := List.mem_map.1 hd
        rw [List.mem_filter, decide_eq_true_eq] at hr
        exact hfree r hr.1 hr.2.1 hr.2.2 t ht
    · split at hfail <;> exact absurd hfail pure_ne_error

/-- Where there is no such retweet, there is none to take back. -/
theorem deleteRetweet_of_free (hrun : s.deleteRetweet user target = .ok (b, s'))
    (hnot : ¬s.Retweeting (some user) target) : s' = s := by
  rcases of_deleteRetweet hrun with ⟨-, rfl⟩ | ⟨-, r, hr, huser, htarget, -⟩
  · rfl
  · exact absurd ⟨r, hr, htarget, congrArg some huser⟩ hnot

/-- No tweet refers to the one that was posted last. -/
theorem Threaded.not_refersTo_last (h : Threaded s) {t : StoredTweet} (ht : t ∈ s.tweets.list) :
    ¬t.RefersTo s.counters.tweets :=
  fun href ↦ Int.not_le.2 (h.lt_of_refersTo ht href) (h.numbered t ht)

/-- Only the tweet itself goes away with a tweet that no other refers to. -/
theorem doomed_iff_of_free {tweets : List StoredTweet} {i d : Int}
    (h : ∀ t ∈ tweets, ¬t.RefersTo i) : StoredTweet.Doomed tweets [i] d ↔ d = i := by
  constructor
  · intro hd
    induction hd with
    | root hroot => exact List.mem_singleton.1 hroot
    | step ht href _ ih => exact absurd (ih ▸ href) (h _ ht)
  · rintro rfl
    exact .root (List.mem_singleton_self _)

/-- `s'` is `s` with a new retweet record `r`, by which `user` points at the tweet `target`. -/
structure Recorded (s : Store) (user target : Int) (r : StoredTweet) (s' : Store) : Prop where
  number : r.id = s.counters.tweets + 1
  author : r.userId = user
  original : r.retweetId = some target
  /-- The record is added, and the tweet that it points at counts it. -/
  tweets : s'.tweets.list = (s.tweets.list.map fun t ↦
    if t.id = target then { t with retweetCount := t.retweetCount.increment } else t) ++ [r]
  /-- All else is as it was. -/
  rest : s' = { s with tweets := s'.tweets, counters.tweets := s.counters.tweets + 1 }

theorem recorded_of_createRetweet (h : s.Orderly) (htarget : s.tweets.has target = true) {t : Tweet}
    (hrun : s.createRetweet now user target = .ok (some t, s')) :
    ∃ r, s.Recorded user target r s' := by
  rcases createRetweet_cases hrun with ⟨hnone, -⟩ | ⟨t', tweets, ht, hid, hposted, rfl⟩
  · cases hnone
  obtain ⟨time, hlist⟩ := hposted.list
  have hother : ¬s.counters.tweets + 1 = target := by
    have hrange := h.grounded.tweet_range htarget
    omega
  refine ⟨s.newTweet user none none (some target) time, rfl, rfl, rfl, ?_, rfl⟩
  show (tweets.list.map fun t ↦ if t.id = target then _ else t) = _
  rw [hlist, List.map_append, List.map_singleton]
  exact congrArg (fun t ↦ _ ++ [t]) (if_neg hother)

section Recorded

variable {r : StoredTweet} (hrec : s.Recorded user target r s')

include hrec

theorem Recorded.mem : r ∈ s'.tweets.list :=
  hrec.tweets ▸ List.mem_append_right _ (List.mem_singleton_self r)

/-- Nothing refers to a new record. -/
theorem Recorded.free (h' : s'.Orderly) : ∀ t ∈ s'.tweets.list, ¬t.RefersTo r.id := by
  have hnumber : r.id = s'.counters.tweets := by rw [hrec.rest]; exact hrec.number
  rw [hnumber]
  exact fun t ht ↦ h'.grounded.not_refersTo_last ht

section Deleted

variable {D : List Int} (h : s.Orderly) (h' : s'.Orderly) (hsame : s'.Resembles s₁)
  (hdeletes : s₁.Deletes r D s'')

include h' hsame hdeletes

/-- With the record nothing else goes. -/
theorem Recorded.mem_deleted_iff {d : Int} : d ∈ D ↔ d = r.id := by
  obtain ⟨_, _, rfl⟩ := hsame
  exact (hdeletes.doomed d).trans (doomed_iff_of_free (hrec.free h'))

/-- What was there before the record stays. -/
theorem Recorded.not_mem_deleted {d : Int} (hd : d ≤ s.counters.tweets) : d ∉ D := by
  intro hmem
  have hnumber := hrec.number
  have hid := (hrec.mem_deleted_iff h' hsame hdeletes).1 hmem
  omega

include h

/-- Without the record the tweets are as they were. -/
theorem Recorded.tweets_deleted (h'' : s''.CountersExact) : s''.tweets = s.tweets := by
  have hkept : (s'.tweets.list.filter fun u ↦ u.id ∉ D) = s.tweets.list.map fun t ↦
      if t.id = target then { t with retweetCount := t.retweetCount.increment } else t := by
    rw [hrec.tweets, List.filter_append, List.filter_eq_self.2, List.filter_eq_nil_iff.2,
      List.append_nil]
    · simp [hrec.mem_deleted_iff h' hsame hdeletes]
    · intro u hu
      obtain ⟨t, ht, rfl⟩ := List.mem_map.1 hu
      have hid := hrec.not_mem_deleted h' hsame hdeletes (h.grounded.numbered t ht)
      split <;> exact decide_eq_true hid
  have hplain : r.parentId = none :=
    (h'.grounded.either r hrec.mem).resolve_right fun hnone ↦ by simp [hrec.original] at hnone
  have hmap : s''.tweets.list = s.tweets.list.map fun t ↦
      if t.id = target then { t with retweetCount := t.retweetCount.increment.less } else t := by
    have htweets : s₁.tweets = s'.tweets := by
      obtain ⟨_, _, rfl⟩ := hsame
      rfl
    rw [hdeletes.tweets, htweets, hkept, List.map_map]
    refine List.map_congr_left fun t _ ↦ ?_
    by_cases hid : t.id = target <;>
      simp [StoredTweet.release, hplain, hrec.original, hid, eq_comm (a := target)]
  have hcount : s''.tweets.Tallied StoredTweet.retweetCount
      (s.tweets.naming StoredTweet.retweetId) := by
    rw [← Rows.naming_map hmap fun t ↦ by split <;> rfl]
    exact h''.retweets
  exact h.exact.retweets.restored hcount hmap (fun _ ↦ rfl)
    fun t ht ↦ congrArg (fun c ↦ { t with retweetCount := c }) ht

/-- Without the record the store is as it was. -/
theorem Recorded.deleted (h'' : s''.CountersExact) : s.Resembles s'' := by
  have hstays : ∀ {d}, d ≤ s.counters.tweets → d ∉ D := hrec.not_mem_deleted h' hsame hdeletes
  have htweets := hrec.tweets_deleted h h' hsame hdeletes h''
  obtain ⟨_, _, rfl⟩ := hsame
  have hlikes : s'.likes = s.likes := by rw [hrec.rest]
  have hlinks : s'.tagLinks = s.tagLinks := by rw [hrec.rest]
  refine .of_tables ?_ ?_ htweets ?_ ?_ ?_ ?_
  · rw [hdeletes.schema, hrec.rest]
  · rw [hdeletes.users, hrec.rest]
  · refine Rows.ext_list (hdeletes.likes.trans ?_)
    show s'.likes.list.filter _ = _
    rw [hlikes, List.filter_eq_self]
    exact fun l hl ↦ decide_eq_true (hstays (h.grounded.tweet_range (h.grounded.likes l hl).2).2)
  · rw [hdeletes.follows, hrec.rest]
  · rw [hdeletes.hashtags, hrec.rest]
  · refine Rows.ext_list (hdeletes.tagLinks.trans ?_)
    show s'.tagLinks.list.filter _ = _
    rw [hlinks, List.filter_eq_self]
    exact fun l hl ↦ decide_eq_true (hstays (h.tags.links l hl).2)

end Deleted

/-- The user has no other record of that tweet. -/
theorem Recorded.only (hnot : ¬s.Retweeting (some user) target) {r' : StoredTweet}
    (hr' : r' ∈ s'.tweets.list) (huser : r'.userId = user) (htarget : r'.retweetId = some target) :
    r' = r := by
  rw [hrec.tweets, List.mem_append, List.mem_map, List.mem_singleton] at hr'
  refine hr'.resolve_left ?_
  rintro ⟨t, ht, rfl⟩
  refine hnot ⟨t, ht, ?_⟩
  split at huser <;> split at htarget <;> exact ⟨htarget, congrArg some huser⟩

end Recorded

/-- To retweet what one has not retweeted, and then to take that back, leaves everything as it
was. -/
theorem deleteRetweet_createRetweet (h : s.Orderly) (hresolved : s.Resolved target)
    (hnot : ¬s.Retweeting (some user) target) {o : Option Tweet}
    (hrun : s.createRetweet now user target = .ok (o, s')) (hsame : s'.Resembles s₁)
    (h₁ : s₁.Orderly) :
    ∃ b s'', s₁.deleteRetweet user target = .ok (b, s'') ∧ s.Resembles s'' := by
  have htweets : s₁.tweets = s'.tweets := by
    obtain ⟨_, _, rfl⟩ := hsame
    rfl
  cases o with
  | none =>
    obtain ⟨-, rfl⟩ | ⟨_, _, hsome, -⟩ := createRetweet_cases hrun
    · rw [Retweeting, ← htweets] at hnot
      obtain ⟨b, s'', hdelete⟩ := exists_deleteRetweet h₁.toReadable fun r hr huser htarget ↦
        absurd ⟨r, hr, htarget, congrArg some huser⟩ hnot
      exact ⟨b, s'', hdelete, deleteRetweet_of_free hdelete hnot ▸ hsame⟩
    · cases hsome
  | some t =>
    obtain ⟨o, ho, rfl, -⟩ := h.grounded.original_of_resolved hresolved
    obtain ⟨r, hrec⟩ := recorded_of_createRetweet h (Rows.has_iff.2 ⟨o, ho, rfl⟩) hrun
    have h' : s'.Orderly := h.change (.retweet hresolved hrun)
    obtain ⟨b, s'', hdelete⟩ : ∃ b s'', s₁.deleteRetweet user o.id = .ok (b, s'') := by
      refine exists_deleteRetweet h₁.toReadable fun r' hr' huser htarget ↦ ?_
      rw [htweets] at hr' ⊢
      rw [hrec.only hnot hr' huser htarget]
      exact hrec.free h'
    refine ⟨b, s'', hdelete, ?_⟩
    have hr : r ∈ s₁.tweets.list := htweets ▸ hrec.mem
    obtain ⟨D, hdeletes⟩ :=
      deletes_of_deleteRetweet h₁.toReadable hr hrec.original (hrec.author ▸ hdelete)
    have hundo : s₁.Change now s'' := .undo hdelete
    exact hrec.deleted h h' hsame hdeletes (h₁.change hundo).exact

end Store

end Microblog
