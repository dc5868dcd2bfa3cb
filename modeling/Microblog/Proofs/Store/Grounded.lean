import Mathlib.Data.Int.Interval
import Microblog.Proofs.Store.TweetGraph

/-!
# What rows name

Likes and follows name accounts and tweets.  `Store.Grounded` says that all of these are stored, and
that the numbers of what is stored lie between one and the greatest number that was given.

What is named by distinct numbers within a range is bounded by the range.  That is why no counter of
the store can leave the integers of 64 bits: the likes of a tweet come from as many accounts, its
replies and retweets are as many tweets, and so on.  `Store.Grounded.fits_accounts` and
`Store.Grounded.fits_tweets` say so for any rows that are told apart by the account or the tweet
behind them.
-/

set_option autoImplicit false

namespace Microblog

open Text

/-- Rows that are told apart by numbers from one to `n` are at most `n`. -/
theorem countP_le_of_range {α : Type} {l : List α} {p : α → Bool} {g : α → Int} {n : Int}
    (hnodup : l.Nodup) (hn : 0 ≤ n)
    (hinj : ∀ a ∈ l, ∀ b ∈ l, p a = true → p b = true → g a = g b → a = b)
    (hrange : ∀ a ∈ l, p a = true → 1 ≤ g a ∧ g a ≤ n) : (l.countP p : Int) ≤ n := by
  have hmap : ((l.filter p).map g).Nodup := by
    refine List.Nodup.map_on (fun a ha b hb ↦ ?_) (hnodup.filter p)
    rw [List.mem_filter] at ha hb
    exact hinj a ha.1 b hb.1 ha.2 hb.2
  have hsub : ((l.filter p).map g).toFinset ⊆ Finset.Icc 1 n := by
    intro k hk
    obtain ⟨a, ha, rfl⟩ := List.mem_map.1 (List.mem_toFinset.1 hk)
    rw [List.mem_filter] at ha
    exact Finset.mem_Icc.2 (hrange a ha.1 ha.2)
  have hcard := Finset.card_le_card hsub
  rw [List.toFinset_card_of_nodup hmap, List.length_map, ← List.countP_eq_length_filter,
    Int.card_Icc] at hcard
  omega

namespace Store

variable {now : Nat} {s s' : Store}

/-- What is named is stored, and numbers lie in their range. -/
structure Grounded (s : Store) : Prop extends Threaded s where
  userIds : ∀ u ∈ s.users.list, 1 ≤ u.id ∧ u.id ≤ s.counters.users
  tweetIds : ∀ t ∈ s.tweets.list, 1 ≤ t.id
  usersFit : 0 ≤ s.counters.users ∧ s.counters.users ≤ Decimal.greatest
  tweetsFit : 0 ≤ s.counters.tweets ∧ s.counters.tweets ≤ Decimal.greatest
  likes : ∀ l ∈ s.likes.list, s.users.has l.userId = true ∧ s.tweets.has l.tweetId = true
  follows : ∀ f ∈ s.follows.list,
    s.users.has f.followerId = true ∧ s.users.has f.followingId = true

namespace Grounded

/-! ## Bounds -/

theorem user_range (h : Grounded s) {id : Int} (hid : s.users.has id = true) :
    1 ≤ id ∧ id ≤ s.counters.users := by
  obtain ⟨u, hu, rfl⟩ := Rows.has_iff.1 hid
  exact h.userIds u hu

theorem tweet_range (h : Grounded s) {id : Int} (hid : s.tweets.has id = true) :
    1 ≤ id ∧ id ≤ s.counters.tweets := by
  obtain ⟨t, ht, rfl⟩ := Rows.has_iff.1 hid
  exact ⟨h.tweetIds t ht, h.numbered t ht⟩

theorem fits_of_le {n : Int} {k : Nat} (hk : (k : Int) ≤ n) (hn : n ≤ Decimal.greatest) :
    Decimal.Fits k := by
  refine ⟨?_, hk.trans hn⟩
  have hleast : Decimal.least ≤ 0 := by decide
  omega

/-- As many rows as accounts. -/
theorem fits_accounts (h : Grounded s) {α : Type} {l : List α} {p : α → Bool} {g : α → Int}
    (hnodup : l.Nodup) (hinj : ∀ a ∈ l, ∀ b ∈ l, p a = true → p b = true → g a = g b → a = b)
    (hstored : ∀ a ∈ l, s.users.has (g a) = true) : Decimal.Fits (l.countP p) :=
  fits_of_le (countP_le_of_range hnodup h.usersFit.1 hinj fun a ha _ ↦ h.user_range (hstored a ha))
    h.usersFit.2

/-- As many rows as tweets. -/
theorem fits_tweets (h : Grounded s) (p : StoredTweet → Bool) :
    Decimal.Fits (s.tweets.list.countP p) :=
  fits_of_le (countP_le_of_range s.tweets.nodup.of_map h.tweetsFit.1
    (fun _ ha _ hb _ _ hid ↦ Rows.eq_of_key_eq ha hb hid)
    fun t ht _ ↦ ⟨h.tweetIds t ht, h.numbered t ht⟩) h.tweetsFit.2

/-! ## Steps -/

/-- One step leaves nothing that names what is gone. -/
theorem step (hstep : Step s s') (h : Grounded s) : Grounded s' := by
  have hthreaded : Threaded s' := h.toThreaded.step hstep
  cases hstep with
  | addUser hlast hlist =>
    refine ⟨hthreaded, fun u hu ↦ ?_, h.tweetIds, ?_, h.tweetsFit, fun l hl ↦ ?_, fun f hf ↦ ?_⟩
    · have hbound := h.usersFit.1
      rcases List.mem_append.1 (hlist ▸ hu) with hu | hu
      · have hold := h.userIds u hu
        show 1 ≤ u.id ∧ u.id ≤ s.counters.users + 1
        omega
      · rw [List.mem_singleton.1 hu]
        show 1 ≤ s.counters.users + 1 ∧ s.counters.users + 1 ≤ s.counters.users + 1
        omega
    · have hbound := h.usersFit.1
      show 0 ≤ s.counters.users + 1 ∧ s.counters.users + 1 ≤ Decimal.greatest
      omega
    · exact ⟨Rows.has_of_append hlist (h.likes l hl).1, (h.likes l hl).2⟩
    · obtain ⟨hfollower, hfollowing⟩ := h.follows f hf
      exact ⟨Rows.has_of_append hlist hfollower, Rows.has_of_append hlist hfollowing⟩
  | @changeUser k f hkey =>
    refine ⟨hthreaded, ?_, h.tweetIds, h.usersFit, h.tweetsFit, fun l hl ↦ ?_, fun g hg ↦ ?_⟩
    · refine Rows.forall_changeAt hkey (fun u hu ↦ ?_) h.userIds
      rw [show (f u).id = u.id from hkey u]
      exact hu
    · simpa using h.likes l hl
    · simpa using h.follows g hg
  | post hposted _ _ _ =>
    obtain ⟨time, hlist⟩ := hposted.list
    have hbound := h.tweetsFit.1
    have hroom := hposted.room
    refine ⟨hthreaded, h.userIds, fun t ht ↦ ?_, h.usersFit, ?_, fun l hl ↦ ?_, h.follows⟩
    · rcases List.mem_append.1 (hlist ▸ ht) with ht | ht
      · exact h.tweetIds t ht
      · rw [List.mem_singleton.1 ht]
        show 1 ≤ s.counters.tweets + 1
        omega
    · show 0 ≤ s.counters.tweets + 1 ∧ s.counters.tweets + 1 ≤ Decimal.greatest
      omega
    · exact ⟨(h.likes l hl).1, Rows.has_of_append hlist (h.likes l hl).2⟩
  | @recount k f hkey hf =>
    refine ⟨hthreaded, h.userIds, ?_, h.usersFit, h.tweetsFit, fun l hl ↦ ?_, h.follows⟩
    · refine Rows.forall_changeAt hkey (fun t ht ↦ ?_) h.tweetIds
      rw [(hf t).id]
      exact ht
    · simpa using h.likes l hl
  | @without D hclosed =>
    refine ⟨hthreaded, h.userIds, fun t ht ↦ h.tweetIds t (Rows.mem_keep.1 ht).1, h.usersFit,
      h.tweetsFit, fun l hl ↦ ?_, h.follows⟩
    obtain ⟨hl, hkept⟩ := Rows.mem_keep.1 hl
    obtain ⟨t, ht, hid⟩ := Rows.has_iff.1 (h.likes l hl).2
    refine ⟨(h.likes l hl).1, Rows.has_iff.2 ⟨t, Rows.mem_keep.2 ⟨ht, ?_⟩, hid⟩⟩
    rw [show t.id = l.tweetId from hid]
    exact hkept
  | addLike huser htweet hlist =>
    refine ⟨hthreaded, h.userIds, h.tweetIds, h.usersFit, h.tweetsFit, fun l hl ↦ ?_, h.follows⟩
    rcases List.mem_append.1 (hlist ▸ hl) with hl | hl
    · exact h.likes l hl
    · rw [List.mem_singleton.1 hl]
      exact ⟨huser, htweet⟩
  | keepLikes =>
    exact ⟨hthreaded, h.userIds, h.tweetIds, h.usersFit, h.tweetsFit,
      fun l hl ↦ h.likes l (Rows.mem_keep.1 hl).1, h.follows⟩
  | addFollow _ hfollower hfollowing hlist =>
    refine ⟨hthreaded, h.userIds, h.tweetIds, h.usersFit, h.tweetsFit, h.likes, fun f hf ↦ ?_⟩
    rcases List.mem_append.1 (hlist ▸ hf) with hf | hf
    · exact h.follows f hf
    · rw [List.mem_singleton.1 hf]
      exact ⟨hfollower, hfollowing⟩
  | keepFollows =>
    exact ⟨hthreaded, h.userIds, h.tweetIds, h.usersFit, h.tweetsFit, h.likes,
      fun f hf ↦ h.follows f (Rows.mem_keep.1 hf).1⟩
  | other husers htweets =>
    exact ⟨hthreaded, husers ▸ h.userIds, h.tweetIds, husers ▸ h.usersFit, htweets ▸ h.tweetsFit,
      h.likes, h.follows⟩

/-- **Whatever the application writes, what is named is stored.** -/
theorem change (hchange : Change now s s') (h : Grounded s) : Grounded s' :=
  hchange.steps.keeps step h

end Grounded

end Store

end Microblog
