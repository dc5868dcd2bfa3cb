import Microblog.Proofs.Social.Atomic
import Microblog.Proofs.Social.Flags

/-!
# Seeing one's own likes

A like is kept for the tweet that it was given to, but what a viewer is shown are the likes of the
target of a tweet.  For a post or a reply the two are the same, so that a like is seen as soon as it
is there and until it is taken back.  For a retweet record they are not: a like of the record is
kept and never seen, and what is seen of the tweet that the record points at stays
(`Social.run_likesShown`).

`Store.liking_of_like` and `Store.liking_of_unlike` say which likes there are afterwards.
-/

set_option autoImplicit false

namespace Microblog

namespace Store

variable {now : Nat} {s s' : Store} {viewer : Option Int} {user tweet k : Int} {b : Bool}

/-! ## The likes afterwards -/

theorem liking_append {likes : Rows Like} {l : Like} (hlist : likes.list = s.likes.list ++ [l]) :
    { s with likes }.Liking viewer k ↔
      s.Liking viewer k ∨ some l.userId = viewer ∧ l.tweetId = k := by
  simp only [Liking, hlist, List.mem_append, List.mem_singleton, or_and_right, exists_or,
    exists_eq_left]

/-- A like that is not added was there before. -/
theorem liking_of_not_added (h : s.Readable) (huser : s.users.has user = true)
    (htweet : s.tweets.has tweet = true) (hrun : s.like now user tweet = .ok (false, s')) :
    s.Liking (some user) tweet := by
  cases hinsert : s.insertLike {
      userId := some (.int user)
      tweetId := some (.int tweet)
      createdAt := some (stamp now) } with
  | ok added =>
    rw [like, hinsert] at hrun
    cases hrun
  | error c =>
    rcases of_insertLike_error h hinsert with ⟨-, htaken⟩ | hmissing
    · obtain ⟨l, hl, hkey⟩ := Rows.has_iff.1 htaken
      obtain ⟨hluser, hltweet⟩ := Prod.mk.inj hkey
      exact ⟨l, hl, congrArg some hluser, hltweet⟩
    · exact absurd ⟨huser, htweet⟩ hmissing

/-- Liking a tweet adds that like and no other. -/
theorem liking_of_like (h : s.Readable) (huser : s.users.has user = true)
    (htweet : s.tweets.has tweet = true) (hrun : s.like now user tweet = .ok (b, s')) :
    s'.Liking viewer k ↔ s.Liking viewer k ∨ viewer = some user ∧ k = tweet := by
  rcases of_like hrun with ⟨rfl, rfl⟩ | ⟨rfl, l, likes, rfl, rfl, -, -, hlist, rfl⟩
  · refine (or_iff_left_of_imp ?_).symm
    rintro ⟨rfl, rfl⟩
    exact liking_of_not_added h huser htweet hrun
  · rw [eq_comm (a := viewer), eq_comm (a := k)]
    exact liking_append hlist

theorem likes_of_unlike (hrun : s.unlike user tweet = .ok (b, s')) :
    s'.likes = s.likes.keep fun l ↦ !(l.userId = user ∧ l.tweetId = tweet) := by
  simp only [unlike, deleteLikes, bind_eq_ok_iff, during_eq_ok_iff, pure_eq_ok_iff] at hrun
  obtain ⟨_, ⟨-, -, rfl⟩, hrun⟩ := hrun
  split at hrun <;> cases hrun <;> rfl

/-- To like a tweet no longer takes that like away and no other. -/
theorem liking_of_unlike (hrun : s.unlike user tweet = .ok (b, s')) :
    s'.Liking viewer k ↔ s.Liking viewer k ∧ ¬(viewer = some user ∧ k = tweet) := by
  simp only [Liking, likes_of_unlike hrun, Rows.mem_keep, Bool.not_eq_true',
    decide_eq_false_iff_not]
  constructor
  · rintro ⟨l, ⟨hl, hother⟩, rfl, rfl⟩
    exact ⟨⟨l, hl, rfl, rfl⟩, fun ⟨huser, htweet⟩ ↦ hother ⟨Option.some.inj huser, htweet⟩⟩
  · rintro ⟨⟨l, hl, rfl, rfl⟩, hother⟩
    exact ⟨l, ⟨hl, fun ⟨huser, htweet⟩ ↦ hother ⟨congrArg some huser, htweet⟩⟩, rfl, rfl⟩

/-! ## The tweets afterwards -/

/-- Every tweet is still there, and points at the tweet that it pointed at. -/
def TweetsStay (s s' : Store) : Prop :=
  ∀ t ∈ s.tweets.list, ∃ t' ∈ s'.tweets.list, t'.id = t.id ∧ t'.retweetId = t.retweetId

theorem TweetsStay.refl (s : Store) : s.TweetsStay s := fun t ht ↦ ⟨t, ht, rfl, rfl⟩

theorem TweetsStay.changeLikes {f : Cell → Cell} : s.TweetsStay (s.changeLikes k f) := by
  intro t ht
  refine ⟨_, List.mem_map_of_mem ht, ?_⟩
  split <;> exact ⟨rfl, rfl⟩

theorem tweetsStay_of_like (hrun : s.like now user tweet = .ok (b, s')) : s.TweetsStay s' := by
  rcases of_like hrun with ⟨-, rfl⟩ | ⟨-, _, _, -, -, -, -, -, rfl⟩
  · exact .refl _
  · exact .changeLikes

theorem tweetsStay_of_unlike (hrun : s.unlike user tweet = .ok (b, s')) : s.TweetsStay s' := by
  rcases of_unlike hrun with ⟨-, rfl⟩ | ⟨-, _, -, -, -, rfl⟩
  · exact .refl _
  · exact .changeLikes

/-- Whether an item is marked as liked: that is about the target of its tweet. -/
theorem Displays.isLiked {t : StoredTweet} {i : Item} (h : s.Displays viewer t i) :
    i.flags.isLiked = true ↔ s.Liking viewer (t.retweetId.getD t.id) := by
  obtain ⟨row, hsee, hfills⟩ := h
  obtain ⟨hread, hflags⟩ := seeTweet_eq_ok_iff.1 hsee
  obtain ⟨hid, -, hretweet⟩ := of_readTweet hread
  rw [hfills.flags, hflags, flags, likes?_iff, Tweet.target, hid, hretweet]

end Store

/-! ## The two requests -/

namespace Action

variable {s : Social} {user tweet : Int}

/-- Whoever has an account may act. -/
theorem answer_requireActor_eq_ok (h : s.store.Readable)
    (huser : s.store.users.has user = true) : (requireActor user).answer s = .ok () := by
  obtain ⟨o, hasked, hsome⟩ := h.user?_eq_ok user
  obtain ⟨u, rfl⟩ := Option.isSome_iff_exists.1 (hsome.2 huser)
  rw [requireActor, answer_bind_of_ok (.ask _) ((answer_ask_eq_ok_iff s).2 hasked)]
  rfl

/-- A tweet that is stored is found. -/
theorem answer_requireTweet_eq_ok (h : s.store.Readable)
    (htweet : s.store.tweets.has tweet = true) :
    ∃ t, (requireTweet tweet).answer s = .ok t := by
  obtain ⟨o, hasked, hsome⟩ := h.tweet?_eq_ok tweet
  obtain ⟨t, rfl⟩ := Option.isSome_iff_exists.1 (hsome.2 htweet)
  rw [requireTweet, answer_bind_of_ok (.ask _) ((answer_ask_eq_ok_iff s).2 hasked)]
  exact ⟨t, rfl⟩

/-- An account that is stored may like a tweet that is stored. -/
theorem answer_like_eq_ok (h : s.store.Readable) (huser : s.store.users.has user = true)
    (htweet : s.store.tweets.has tweet = true) : (like user tweet).answer s = .ok () := by
  obtain ⟨t, hfound⟩ := answer_requireTweet_eq_ok h htweet
  rw [like, answer_bind_of_ok (.requireActor _) (answer_requireActor_eq_ok h huser),
    answer_bind_of_ok (.requireTweet _) hfound]
  cases hrun : s.store.like s.now user tweet with
  | error e => exact absurd hrun (Store.like_ne_error h huser htweet e)
  | ok found =>
    obtain ⟨added, store⟩ := found
    have hchange : (Action.change fun now ↦ Store.like now user tweet).Answers s _ := .change hrun
    obtain ⟨x, hx, -⟩ := hchange
    rw [answer_bind, hx]
    simp only [Except.bind]
    split
    · exact answer_notify _ _ _ _
    · rfl

/-- What is so once an account has liked a tweet: nothing is liked that was not liked before, but
for that tweet. -/
theorem after_like (h : s.store.Orderly) (huser : s.store.users.has user = true)
    (htweet : s.store.tweets.has tweet = true) :
    s.store.TweetsStay ((like user tweet).after s).store ∧
      ∀ viewer k, ((like user tweet).after s).store.Liking viewer k ↔
        s.store.Liking viewer k ∨ viewer = some user ∧ k = tweet := by
  rcases Ends.like h user tweet with ⟨f, hfails, -⟩ | ⟨_, -, row, added, store, -, hrun, hafter⟩
  · rw [answer_like_eq_ok h.toReadable huser htweet] at hfails
    cases hfails
  · -- telling the author changes neither likes nor tweets
    have hkept : ((like user tweet).after s).store.likes = store.likes ∧
        ((like user tweet).after s).store.tweets = store.tweets := by
      split at hafter
      · exact ⟨hafter.likes, hafter.tweets⟩
      · rw [hafter]
        exact ⟨rfl, rfl⟩
    have hliking : ∀ viewer k, ((like user tweet).after s).store.Liking viewer k ↔
        store.Liking viewer k := fun viewer k ↦ by rw [Store.Liking, Store.Liking, hkept.1]
    refine ⟨?_, fun viewer k ↦ (hliking viewer k).trans
      (Store.liking_of_like h.toReadable huser htweet hrun)⟩
    rw [Store.TweetsStay, hkept.2]
    exact Store.tweetsStay_of_like hrun

/-- What is so once an account likes a tweet no longer. -/
theorem after_unlike (h : s.store.Orderly) (user tweet : Int) :
    (unlike user tweet).answer s = .ok () ∧
      s.store.TweetsStay ((unlike user tweet).after s).store ∧
      ∀ viewer k, ((unlike user tweet).after s).store.Liking viewer k ↔
        s.store.Liking viewer k ∧ ¬(viewer = some user ∧ k = tweet) := by
  cases hrun : s.store.unlike user tweet with
  | error e => exact absurd hrun (Store.unlike_ne_error h.toReadable user tweet e)
  | ok found =>
    obtain ⟨b, store⟩ := found
    have hchange : (Action.change fun _ ↦ Store.unlike user tweet).Answers s _ := .change hrun
    have hanswers : (unlike user tweet).Answers s fun _ s' ↦ s' = { s with store } :=
      hchange.bind fun _ s' hs' ↦ .pure () hs'.2
    obtain ⟨_, hanswer, hafter⟩ := hanswers
    rw [hafter]
    exact ⟨hanswer, Store.tweetsStay_of_unlike hrun, fun viewer k ↦ Store.liking_of_unlike hrun⟩

end Action

/-! ## What is shown -/

namespace Social

/-- Whether `user` is shown that they like a tweet. -/
def LikeShown (s : Social) (user tweet : Int) (liked : Prop) : Prop :=
  ∃ i, (Action.getTweet tweet (some user)).answer s = .ok i ∧ (i.flags.isLiked = true ↔ liked)

theorem LikeShown.congr {s : Social} {user tweet : Int} {liked liked' : Prop}
    (h : s.LikeShown user tweet liked) (heq : liked ↔ liked') : s.LikeShown user tweet liked' :=
  h.imp fun _ hi ↦ ⟨hi.1, hi.2.trans heq⟩

/-- What a user who likes a tweet, and then likes it no longer, is shown of that. -/
structure LikesShown (s : Social) : Prop where
  /-- A like of a post or a reply is seen, and it is gone when it is taken back. -/
  original : ∀ {user : Int} {t : StoredTweet}, s.store.users.has user = true →
    t ∈ s.store.tweets.list → t.retweetId = none →
    (Action.like user t.id).answer s = .ok () ∧
      (s.perform (.like user t.id)).LikeShown user t.id True ∧
      (Action.unlike user t.id).answer (s.perform (.like user t.id)) = .ok () ∧
      ((s.perform (.like user t.id)).perform (.unlike user t.id)).LikeShown user t.id False
  /-- A like of a retweet record is not seen.  What is seen before and afterwards is whether the
  user likes the tweet that the record points at. -/
  record : ∀ {user target : Int} {t : StoredTweet}, s.store.users.has user = true →
    t ∈ s.store.tweets.list → t.retweetId = some target →
    (Action.like user t.id).answer s = .ok () ∧
      (s.perform (.like user t.id)).LikeShown user t.id (s.store.Liking (some user) target) ∧
      (Action.unlike user t.id).answer (s.perform (.like user t.id)) = .ok () ∧
      ((s.perform (.like user t.id)).perform (.unlike user t.id)).LikeShown user t.id
        (s.store.Liking (some user) target)

section Shown

variable {s : Social} {user : Int} {t : StoredTweet}

/-- A tweet that stays is shown with the likes of its target. -/
theorem likeShown_of_stays {s' : Social} (h : s'.store.Readable)
    (hstay : s.store.TweetsStay s'.store) (ht : t ∈ s.store.tweets.list) {liked : Prop}
    (hliked : s'.store.Liking (some user) (t.retweetId.getD t.id) ↔ liked) :
    s'.LikeShown user t.id liked := by
  obtain ⟨t', ht', hid, hretweet⟩ := hstay t ht
  obtain ⟨i, hi, hdisplays⟩ := Action.answer_getTweet_of_stored h (some user) ht'
  refine ⟨i, hid ▸ hi, ?_⟩
  rw [hdisplays.isLiked, hid, hretweet, hliked]

/-- What is shown after a like and after it is taken back, for any kind of tweet. -/
theorem likeShown_of_orderly (h : s.store.Orderly) (huser : s.store.users.has user = true)
    (ht : t ∈ s.store.tweets.list) {target : Int} (htarget : t.retweetId.getD t.id = target) :
    (Action.like user t.id).answer s = .ok () ∧
      (s.perform (.like user t.id)).LikeShown user t.id
        (s.store.Liking (some user) target ∨ target = t.id) ∧
      (Action.unlike user t.id).answer (s.perform (.like user t.id)) = .ok () ∧
      ((s.perform (.like user t.id)).perform (.unlike user t.id)).LikeShown user t.id
        (s.store.Liking (some user) target ∧ target ≠ t.id) := by
  have htweet : s.store.tweets.has t.id = true := Rows.has_iff.2 ⟨t, ht, rfl⟩
  have hlike : (s.perform (.like user t.id)).store.Orderly :=
    (Action.Evolves.like user t.id).orderly h
  have hunlike : ((s.perform (.like user t.id)).perform (.unlike user t.id)).store.Orderly :=
    (Action.Evolves.unlike user t.id).orderly hlike
  obtain ⟨hstay, hliking⟩ := Action.after_like h huser htweet
  obtain ⟨hanswer, hstay', hliking'⟩ := Action.after_unlike hlike user t.id
  have hboth : s.store.TweetsStay
      ((s.perform (.like user t.id)).perform (.unlike user t.id)).store := by
    intro t ht
    obtain ⟨t₁, ht₁, hid, hretweet⟩ := hstay t ht
    obtain ⟨t₂, ht₂, hid', hretweet'⟩ := hstay' t₁ ht₁
    exact ⟨t₂, ht₂, hid'.trans hid, hretweet'.trans hretweet⟩
  refine ⟨Action.answer_like_eq_ok h.toReadable huser htweet,
    likeShown_of_stays hlike.toReadable hstay ht ?_, hanswer,
    likeShown_of_stays hunlike.toReadable hboth ht ?_⟩
  · rw [htarget]
    refine (hliking (some user) target).trans ?_
    rw [eq_self_iff_true, true_and]
  · rw [htarget]
    refine (hliking' (some user) target).trans ?_
    rw [eq_self_iff_true, true_and]
    refine and_congr_left fun hother ↦ (hliking (some user) target).trans ?_
    exact or_iff_left fun hnew ↦ hother hnew.2

end Shown

/-- **In every run a like of a post or a reply is seen by whoever gave it, and a like of a retweet
record is not.** -/
theorem run_likesShown (capacity : Nat) (cached : Bool) (lifetimes : Lifetimes)
    (ops : List Operation) : ((start capacity cached lifetimes).run ops).LikesShown := by
  have horderly := run_orderly capacity cached lifetimes ops
  generalize (start capacity cached lifetimes).run ops = s at horderly ⊢
  constructor
  · intro user t huser ht hnone
    have htarget : t.retweetId.getD t.id = t.id := by rw [hnone]; rfl
    obtain ⟨hlike, hshown, hunlike, hgone⟩ := likeShown_of_orderly horderly huser ht htarget
    refine ⟨hlike, hshown.congr ?_, hunlike, hgone.congr ?_⟩
    · exact iff_of_true (.inr rfl) trivial
    · exact iff_of_false (fun h ↦ h.2 rfl) id
  · intro user target t huser ht hrecord
    have htarget : t.retweetId.getD t.id = target := by rw [hrecord]; rfl
    -- a record points at another tweet, because that is no record
    have hother : target ≠ t.id := by
      rintro rfl
      obtain ⟨-, o, ho, hid, hnone⟩ := horderly.grounded.original t ht t.id hrecord
      obtain rfl : o = t := Rows.eq_of_key_eq ho ht hid
      cases hnone.symm.trans hrecord
    obtain ⟨hlike, hshown, hunlike, hgone⟩ := likeShown_of_orderly horderly huser ht htarget
    refine ⟨hlike, hshown.congr ?_, hunlike, hgone.congr ?_⟩
    · exact or_iff_left hother
    · exact and_iff_left hother

/-- Bob likes the record by which he has retweeted ada's tweet, and is shown that he does not. -/
theorem like_of_record_unseen :
    sampleRetweet.store.users.has 2 = true ∧ sampleRetweet.store.tweets.has 2 = true ∧
    (Action.like 2 2).answer sampleRetweet = .ok () ∧
    ∃ i, (Action.getTweet 2 (some 2)).answer (sampleRetweet.perform (.like 2 2)) = .ok i ∧
      i.flags.isLiked = false := by
  have hshown : ((Action.getTweet 2 (some 2)).answer
      (sampleRetweet.perform (.like 2 2))).toOption.map (·.flags.isLiked) = some false := by
    decide +kernel
  refine ⟨by decide +kernel, by decide +kernel, by decide +kernel, ?_⟩
  cases hanswer : (Action.getTweet 2 (some 2)).answer (sampleRetweet.perform (.like 2 2)) with
  | error f =>
    rw [hanswer] at hshown
    cases hshown
  | ok i =>
    rw [hanswer] at hshown
    exact ⟨i, rfl, Option.some.inj hshown⟩

end Social

end Microblog
