import Microblog.Proofs.Social.Liking

/-!
# Deleting a tweet

A tweet is deleted with its thread: with all that answers or retweets it, and what answers or
retweets that, and so on.  A retweet record is deleted in another way than a post or a reply, by who
retweeted and what, not by its number; but nobody has two records of one tweet, so that it comes to
the same.

* `Store.Deletes` is what a deletion does to the store, row by row and table by table: what goes is
  the least set that holds the tweet and whatever refers to one of its members, and of what stays
  only the tweet that the deleted one referred to is changed, in one counter.
* `Social.run_deletes` says of every run that this is what the request does for the author of the
  tweet, unless the deletion would go too far; and that it does nothing for anybody else.
-/

set_option autoImplicit false

namespace Microblog

open Text

/-- One less, if the cell is an integer. -/
def Cell.less : Cell → Cell
  | .int n => .int (n - 1)
  | c => c

/-- A counter of rows that counts one at least is lowered to one less. -/
theorem Rows.Tallied.decrement_eq_less {α β κ ι : Type} [Row α κ] [Row β ι] [DecidableEq κ]
    {rows : Rows α} {others : Rows β} {count : α → Cell} {column : β → Option κ}
    (h : rows.Tallied count (others.naming column)) {a : α} {b : β} (ha : a ∈ rows.list)
    (hb : b ∈ others.list) (hk : column b = some (Row.key a))
    (hfits : Decimal.Fits (others.naming column (Row.key a))) :
    (count a).decrement = (count a).less := by
  have hpos := Rows.naming_pos hb hk
  have hless : Decimal.Fits ((others.naming column (Row.key a) : Int) - 1) := by
    have hleast : Decimal.least ≤ 0 := by decide
    exact ⟨by omega, Int.le_trans (by omega) hfits.2⟩
  rw [h a ha, Cell.decrement_int hless, Int.max_eq_left (by omega)]
  rfl

namespace StoredTweet

/-- What becomes of the tweet `u` when the tweet `t` is deleted and `u` stays: it has a reply less
if `t` answered it, and a retweet less if `t` pointed at it. -/
def release (t u : StoredTweet) : StoredTweet :=
  { u with
    replyCount := if t.parentId = some u.id then u.replyCount.less else u.replyCount
    retweetCount := if t.retweetId = some u.id then u.retweetCount.less else u.retweetCount }

variable {t u : StoredTweet}

/-- A counter that is not at zero is lowered to one less. -/
theorem release_of_reply {p : Int} (hparent : t.parentId = some p) (hplain : t.retweetId = none)
    (hcount : u.id = p → u.replyCount.decrement = u.replyCount.less) :
    (if u.id = p then { u with replyCount := u.replyCount.decrement } else u) = t.release u := by
  by_cases hid : u.id = p
  · simp [release, hparent, hplain, hid, hcount hid]
  · simp [release, hparent, hplain, hid, eq_comm (a := p)]

@[inherit_doc release_of_reply]
theorem release_of_record {r : Int} (hretweet : t.retweetId = some r) (hplain : t.parentId = none)
    (hcount : u.id = r → u.retweetCount.decrement = u.retweetCount.less) :
    (if u.id = r then { u with retweetCount := u.retweetCount.decrement } else u) =
      t.release u := by
  by_cases hid : u.id = r
  · simp [release, hretweet, hplain, hid, hcount hid]
  · simp [release, hretweet, hplain, hid, eq_comm (a := r)]

theorem release_of_post (hparent : t.parentId = none) (hretweet : t.retweetId = none) :
    t.release u = u := by
  simp only [release, hparent, hretweet, reduceCtorEq, if_false]

end StoredTweet

namespace Store

variable {s s' : Store} {t : StoredTweet} {D : List Int} {user target : Int} {b : Bool}

/-! ## What goes and what stays -/

/-- `s'` is `s` after the deletion of the tweet `t`, with which the tweets `D` have gone. -/
structure Deletes (s : Store) (t : StoredTweet) (D : List Int) (s' : Store) : Prop where
  /-- What goes is the least set that holds the tweet and whatever refers to a member. -/
  doomed : ∀ d, d ∈ D ↔ StoredTweet.Doomed s.tweets.list [t.id] d
  tweets : s'.tweets.list = (s.tweets.list.filter fun u ↦ u.id ∉ D).map t.release
  likes : s'.likes.list = s.likes.list.filter fun l ↦ l.tweetId ∉ D
  tagLinks : s'.tagLinks.list = s.tagLinks.list.filter fun l ↦ l.tweetId ∉ D
  notifications : s'.notifications.list =
    s.notifications.list.filter fun n ↦ n.tweetId.all (· ∉ D)
  users : s'.users = s.users
  follows : s'.follows = s.follows
  hashtags : s'.hashtags = s.hashtags
  schema : s'.schema = s.schema
  counters : s'.counters = s.counters
  /-- The tweet that was answered stays, and had counted the reply. -/
  parent : ∀ p, t.parentId = some p →
    ∃ u ∈ s.tweets.list, u.id = p ∧ p ∉ D ∧ u.replyCount.IsPositive
  /-- The tweet that was retweeted stays, and had counted the retweet. -/
  original : ∀ r, t.retweetId = some r →
    ∃ u ∈ s.tweets.list, u.id = r ∧ r ∉ D ∧ u.retweetCount.IsPositive

/-- What goes with a tweet is not older than the tweet. -/
theorem TweetGraph.le_of_doomed (h : TweetGraph s) {d : Int}
    (hd : StoredTweet.Doomed s.tweets.list [t.id] d) : t.id ≤ d := by
  induction hd with
  | root hroot => exact Int.le_of_eq (List.mem_singleton.1 hroot).symm
  | step hu href _ ih => exact Int.le_trans ih (Int.le_of_lt (h.lt_of_refersTo hu href))

section Deletes

variable (hg : Grounded s) (hc : CountersExact s) (ht : t ∈ s.tweets.list)
  (hD : ∀ d, d ∈ D ↔ StoredTweet.Doomed s.tweets.list [t.id] d)

include hg hc ht hD

/-- Of a deletion that has taken the right tweets out, only what became of the others is left to
say. -/
theorem Deletes.of_without (hrest : s' = { s.withoutTweets D with tweets := s'.tweets })
    (htweets : s'.tweets.list = (s.withoutTweets D).tweets.list.map t.release) :
    s.Deletes t D s' where
  doomed := hD
  tweets := by
    rw [htweets]
    exact congrArg _ (List.filter_congr fun u _ ↦ by simp)
  likes := by
    rw [hrest]
    exact List.filter_congr fun l _ ↦ by simp
  tagLinks := by
    rw [hrest]
    exact List.filter_congr fun l _ ↦ by simp
  notifications := by
    rw [hrest]
    exact List.filter_congr fun n _ ↦ by cases n.tweetId <;> simp
  users := by rw [hrest]; rfl
  follows := by rw [hrest]; rfl
  hashtags := by rw [hrest]; rfl
  schema := by rw [hrest]; rfl
  counters := by rw [hrest]; rfl
  parent p hp := by
    obtain ⟨hhas, hlt⟩ := hg.parent t ht p hp
    obtain ⟨u, hu, rfl⟩ := Rows.has_iff.1 hhas
    refine ⟨u, hu, rfl, fun hgone ↦ ?_, hc.replies.isPositive hu ht hp⟩
    exact Int.not_le.2 hlt (hg.le_of_doomed ((hD _).1 hgone))
  original r hr := by
    obtain ⟨hlt, u, hu, rfl, -⟩ := hg.original t ht r hr
    refine ⟨u, hu, rfl, fun hgone ↦ ?_, hc.retweets.isPositive hu ht hr⟩
    exact Int.not_le.2 hlt (hg.le_of_doomed ((hD _).1 hgone))

/-- The deletion of a post or of a reply. -/
theorem Deletes.of_plain (hplain : t.retweetId = none) :
    s.Deletes t D (t.parentId.elim (s.withoutTweets D) fun p ↦
      (s.withoutTweets D).changeReplies p Cell.decrement) := by
  cases hparent : t.parentId with
  | none =>
    refine .of_without hg hc ht hD rfl ?_
    have hsame : t.release = id := funext fun u ↦ StoredTweet.release_of_post hparent hplain
    rw [hsame, List.map_id]
    rfl
  | some p =>
    refine .of_without hg hc ht hD rfl (List.map_congr_left fun u hu ↦ ?_)
    exact StoredTweet.release_of_reply hparent hplain fun hid ↦ hc.replies.decrement_eq_less
      (Rows.mem_keep.1 hu).1 ht (hparent.trans (congrArg some hid.symm)) (hg.fits_tweets _)

/-- The deletion of a retweet record. -/
theorem Deletes.of_record (hretweet : t.retweetId = some target) :
    s.Deletes t D ((s.withoutTweets D).changeRetweets target Cell.decrement) := by
  have hplain : t.parentId = none :=
    (hg.either t ht).resolve_right fun hnone ↦ by simp [hretweet] at hnone
  refine .of_without hg hc ht hD rfl (List.map_congr_left fun u hu ↦ ?_)
  exact StoredTweet.release_of_record hretweet hplain fun hid ↦ hc.retweets.decrement_eq_less
    (Rows.mem_keep.1 hu).1 ht (hretweet.trans (congrArg some hid.symm)) (hg.fits_tweets _)

end Deletes

/-! ## The two statements -/

/-- What is there and belongs to the user is deleted. -/
theorem deleteTweet_eq_true (ht : t ∈ s.tweets.list)
    (h : s.deleteTweet t.id t.userId = .ok (b, s')) : b = true := by
  have hfound : (s.tweets.get? t.id).filter (·.userId = t.userId) = some t := by
    rw [Option.filter_eq_some_iff, Rows.get?_eq_some_iff]
    exact ⟨⟨ht, rfl⟩, decide_eq_true rfl⟩
  simp only [deleteTweet, hfound, bind_eq_ok_iff, pure_eq_ok_iff, Prod.mk.injEq] at h
  obtain ⟨-, -, _, -, hb, -⟩ := h
  exact hb.symm

/-- A retweet that is there is taken back. -/
theorem deleteRetweet_eq_true (ht : t ∈ s.tweets.list) (hretweet : t.retweetId = some target)
    (h : s.deleteRetweet t.userId target = .ok (b, s')) : b = true := by
  simp only [deleteRetweet, bind_eq_ok_iff, during_eq_ok_iff] at h
  obtain ⟨⟨n, s₁⟩, hdelete, h⟩ := h
  obtain ⟨rfl, -⟩ := of_deleteTweets hdelete
  split at h
  · rename_i hnone
    refine absurd (List.length_eq_zero_iff.1 hnone) (List.ne_nil_of_mem (a := t) ?_)
    exact List.mem_filter.2 ⟨ht, decide_eq_true ⟨rfl, hretweet⟩⟩
  · exact (Prod.mk.inj (Except.ok.inj h)).1.symm

theorem deletes_of_deleteTweet (h : s.Readable) (ht : t ∈ s.tweets.list)
    (hplain : t.retweetId = none) (hrun : s.deleteTweet t.id t.userId = .ok (b, s')) :
    ∃ D, s.Deletes t D s' := by
  obtain ⟨hb, -⟩ | ⟨-, u, hu, hid, -, D, hD, rfl⟩ := of_deleteTweet hrun
  · cases hb.symm.trans (deleteTweet_eq_true ht hrun)
  · obtain rfl : u = t := Rows.eq_of_key_eq hu ht hid
    exact ⟨D, .of_plain h.grounded h.exact hu hD hplain⟩

/-- Nobody has two records of one tweet, so that taking a retweet back deletes just the record. -/
theorem deletes_of_deleteRetweet (h : s.Readable) (ht : t ∈ s.tweets.list)
    (hretweet : t.retweetId = some target)
    (hrun : s.deleteRetweet t.userId target = .ok (b, s')) : ∃ D, s.Deletes t D s' := by
  obtain ⟨hb, -⟩ | ⟨-, _, -, -, -, D, hD, rfl⟩ := of_deleteRetweet hrun
  · cases hb.symm.trans (deleteRetweet_eq_true ht hretweet hrun)
  · have hone : (s.tweets.list.filter fun u ↦
        decide (u.userId = t.userId ∧ u.retweetId = some target)) = [t] := by
      refine Rows.filter_eq_singleton ht fun u hu ↦ ?_
      rw [decide_eq_true_eq]
      refine ⟨fun ⟨huser, hid⟩ ↦ h.grounded.once u hu t ht target hid hretweet huser, ?_⟩
      rintro rfl
      exact ⟨rfl, hretweet⟩
    rw [hone] at hD
    exact ⟨D, .of_record h.grounded h.exact ht hD hretweet⟩

end Store

/-! ## The request -/

namespace Action

variable {s : Social} {user tweet : Int} {t : StoredTweet}

theorem answer_requireTweet_eq_error (h : s.store.Readable)
    (htweet : s.store.tweets.has tweet = false) :
    (requireTweet tweet).answer s = .error .noTweet := by
  obtain ⟨o, hasked, hsome⟩ := h.tweet?_eq_ok tweet
  have hnone : o = none := by
    rw [← Option.not_isSome_iff_eq_none, hsome, htweet]
    exact Bool.false_ne_true
  subst hnone
  rw [requireTweet, answer_bind_of_ok (.ask _) ((answer_ask_eq_ok_iff s).2 hasked)]
  rfl

/-- A tweet that is stored is found with its author and what it points at. -/
theorem answer_requireTweet_of_mem (h : s.store.Orderly) (ht : t ∈ s.store.tweets.list) :
    ∃ found, (requireTweet t.id).answer s = .ok found ∧ found.userId = t.userId ∧
      found.retweetId = t.retweetId := by
  have hstored : s.store.tweets.has t.id = true := Rows.has_iff.2 ⟨t, ht, rfl⟩
  obtain ⟨found, hfound⟩ := answer_requireTweet_eq_ok h.toReadable hstored
  rcases Finds.requireTweet (L := False) h t.id with
    ⟨f, hfails, -⟩ | ⟨found', hfound', -, row, hget, hread⟩
  · cases hfound.symm.trans hfails
  · obtain rfl : row = t :=
      Rows.eq_of_key_eq (Rows.get?_eq_some_iff.1 hget).1 ht (Rows.get?_eq_some_iff.1 hget).2
    exact ⟨found', hfound', (Store.of_readTweet hread).2⟩

/-- Where one statement is all that is left to do, what fails is the store. -/
theorem failure_of_change {α : Type} {statement : Nat → Store → Except StoreError (α × Store)}
    {f : Failure} (hfails : (do let _ ← change statement : Action Unit).answer s = .error f) :
    ∃ e, f = .store e := by
  rw [answer_bind] at hfails
  cases hrun : statement s.now s.store with
  | error e =>
    rw [answer_change_of_error hrun] at hfails
    exact ⟨e, (Except.error.inj hfails).symm⟩
  | ok found =>
    obtain ⟨x, store⟩ := found
    obtain ⟨_, hanswer, -⟩ : (change statement).Answers s _ := .change hrun
    rw [hanswer] at hfails
    cases hfails

/-- Somebody deletes a tweet that is not there. -/
theorem answer_deleteTweet_of_missing (h : s.store.Readable) (user : Int)
    (htweet : s.store.tweets.has tweet = false) :
    (deleteTweet user tweet).answer s = .error .noTweet := by
  rw [deleteTweet, answer_bind, answer_requireTweet_eq_error h htweet]
  rfl

/-- Somebody deletes a tweet of somebody else. -/
theorem answer_deleteTweet_of_foreign (h : s.store.Orderly) (ht : t ∈ s.store.tweets.list)
    (hforeign : t.userId ≠ user) : (deleteTweet user t.id).answer s = .error .notAuthor := by
  obtain ⟨found, hfound, huser, -⟩ := answer_requireTweet_of_mem h ht
  have hother : found.userId ≠ user := huser ▸ hforeign
  rw [deleteTweet, answer_bind_of_ok (.requireTweet _) hfound, if_pos hother]
  rfl

/-- Somebody deletes a tweet of their own: then it goes, unless the store finds that to go too far.
-/
theorem deleteTweet_of_own (h : s.store.Orderly) (ht : t ∈ s.store.tweets.list) :
    ((deleteTweet t.userId t.id).answer s = .ok () ∧
      ∃ D store, s.store.Deletes t D store ∧
        (deleteTweet t.userId t.id).after s = { s with store }) ∨
    s.store.TooDeep t.userId ∧ (∃ e, (deleteTweet t.userId t.id).answer s = .error (.store e)) ∧
      (deleteTweet t.userId t.id).after s = s := by
  obtain ⟨found, hfound, huser, hretweet⟩ := answer_requireTweet_of_mem h ht
  rcases Ends.deleteTweet h t.userId t.id with ⟨f, hfails, hafter, hlimit⟩ |
    ⟨_, hanswer, row, b, store, hget, -, hrun, hafter⟩
  · -- the checks are passed, so that it is the statement that has failed
    have hstore : ∃ e, f = .store e := by
      rw [deleteTweet, answer_bind_of_ok (.requireTweet _) hfound, if_neg (not_not.2 huser)]
        at hfails
      split at hfails <;> exact failure_of_change hfails
    obtain ⟨e, rfl⟩ := hstore
    exact .inr ⟨hlimit rfl, ⟨e, hfails⟩, hafter⟩
  · obtain rfl : row = t :=
      Rows.eq_of_key_eq (Rows.get?_eq_some_iff.1 hget).1 ht (Rows.get?_eq_some_iff.1 hget).2
    refine .inl ⟨hanswer, ?_⟩
    cases hplain : row.retweetId with
    | none =>
      rw [hplain] at hrun
      obtain ⟨D, hD⟩ := Store.deletes_of_deleteTweet h.toReadable ht hplain hrun
      exact ⟨D, store, hD, hafter⟩
    | some target =>
      rw [hplain] at hrun
      obtain ⟨D, hD⟩ := Store.deletes_of_deleteRetweet h.toReadable ht hplain hrun
      exact ⟨D, store, hD, hafter⟩

end Action

/-! ## Runs -/

namespace Social

/-- Only the author deletes a tweet, and then just its thread goes. -/
structure DeletesThreads (s : Social) : Prop where
  /-- What is not there is not found. -/
  missing : ∀ user tweet, s.store.tweets.has tweet = false →
    ((Action.deleteTweet user tweet).answer s).mapError (·.report.kind) = .error .notFound ∧
      s.perform (.deleteTweet user tweet) = s
  /-- What belongs to somebody else is forbidden. -/
  foreign : ∀ user, ∀ t ∈ s.store.tweets.list, t.userId ≠ user →
    ((Action.deleteTweet user t.id).answer s).mapError (·.report.kind) = .error .forbidden ∧
      s.perform (.deleteTweet user t.id) = s
  /-- One's own tweet is deleted, unless that would go too far. -/
  own : ∀ t ∈ s.store.tweets.list,
    ((Action.deleteTweet t.userId t.id).answer s = .ok () ∧
      ∃ D store, s.store.Deletes t D store ∧
        s.perform (.deleteTweet t.userId t.id) = { s with store }) ∨
    s.store.TooDeep t.userId ∧
      (∃ e, (Action.deleteTweet t.userId t.id).answer s = .error (.store e)) ∧
      s.perform (.deleteTweet t.userId t.id) = s

/-- **In every run deleting a tweet removes exactly its thread**: the tweets of the thread with
their likes, hashtag links and notifications; and all that it changes of the rest is one counter of
the tweet that the deleted one answered or retweeted. -/
theorem run_deletes (capacity : Nat) (cached : Bool) (lifetimes : Lifetimes)
    (ops : List Operation) : ((start capacity cached lifetimes).run ops).DeletesThreads := by
  have h := run_orderly capacity cached lifetimes ops
  -- a request that fails has changed nothing
  have hunchanged : ∀ {user tweet f},
      (Action.deleteTweet user tweet).answer ((start capacity cached lifetimes).run ops) =
        .error f →
      ((start capacity cached lifetimes).run ops).perform (.deleteTweet user tweet) =
        (start capacity cached lifetimes).run ops := fun hf ↦
    ((Action.Ends.deleteTweet h _ _).of_failure (congrArg Except.failure? hf)).1
  constructor
  · intro user tweet htweet
    have hanswer := Action.answer_deleteTweet_of_missing h.toReadable user htweet
    exact ⟨by rw [hanswer]; rfl, hunchanged hanswer⟩
  · intro user t ht hforeign
    have hanswer := Action.answer_deleteTweet_of_foreign h ht hforeign
    exact ⟨by rw [hanswer]; rfl, hunchanged hanswer⟩
  · exact fun t ht ↦ Action.deleteTweet_of_own h ht

end Social

end Microblog
