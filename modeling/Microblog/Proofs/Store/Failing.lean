import Microblog.Proofs.Store.Notified
import Microblog.Proofs.Store.Posting

/-!
# Why a statement fails

In a store that the application can read, and for rows that are there, a statement fails only at a
limit of the store: all numbers of a table are given, or a deletion would go too far
(`Store.TooDeep`).  For every statement that the application carries out there is one
theorem here which starts from a statement that failed and says which of these it was; some never
fail.

They are proved the way the outcomes of statements that succeed are opened: a sequence of steps
fails at one of them, where the steps before it succeeded (`bind_eq_error_iff`).
-/

set_option autoImplicit false

namespace Microblog

open Text

/-! ## Opening a failure -/

theorem bind_eq_error_iff {ε α β : Type} {x : Except ε α} {f : α → Except ε β} {e : ε} :
    (x >>= f) = .error e ↔ x = .error e ∨ ∃ a, x = .ok a ∧ f a = .error e := by
  cases x with
  | error e' => simp [bind, Except.bind]
  | ok a => simp [bind, Except.bind]

theorem pure_ne_error {ε α : Type} {a : α} {e : ε} : (pure a : Except ε α) ≠ .error e := nofun

theorem need_eq_error_iff {α : Type} {o : Option α} {c : Cause} :
    need o = .error c ↔ o = none ∧ c = .missing := by
  cases o <;> simp [need, eq_comm]

theorem demand_eq_error_iff {cause c : Cause} {p : Prop} [Decidable p] :
    demand cause p = .error c ↔ ¬p ∧ c = cause := by
  rw [demand]
  split <;> simp [*, eq_comm]

theorem during_eq_error_iff {α : Type} {task : String} {x : Except Cause α} {e : StoreError} :
    during task x = .error e ↔ ∃ c, x = .error c ∧ e = ⟨task, c⟩ := by
  cases x <;> simp [during, eq_comm]

theorem elim_error_eq_error_iff {ε α : Type} {e e' : ε} {o : Option α} :
    o.elim (Except.error e) Except.ok = .error e' ↔ o = none ∧ e' = e := by
  cases o <;> simp [eq_comm]

theorem chooseId_none_eq_error_iff {last : Int} {c : Cause} :
    chooseId none last = .error c ↔ ¬last < Decimal.greatest ∧ c = .other := by
  rw [chooseId, Option.elim_none, nextId]
  split <;> simp [*, eq_comm]

theorem chooseSerial_none (serials : List Int) :
    chooseSerial none serials = .ok (nextSerial serials) := rfl

theorem named_int (n : Int) : named (.int n) = .ok n := rfl

/-- An insertion that ignores conflicts fails of what is no conflict. -/
theorem ignoring_eq_error_iff {α : Type} {x : Except Cause α} {c : Cause} :
    ignoring x = .error c ↔ x = .error c ∧ c.isIgnored = false := by
  cases x with
  | ok a => simp [ignoring]
  | error c' =>
    rw [ignoring]
    split
    · rename_i hignored
      simp only [reduceCtorEq, Except.error.injEq, false_iff, not_and, Bool.not_eq_false]
      rintro rfl
      exact hignored
    · rename_i hcounts
      simp only [Except.error.injEq, iff_self_and]
      rintro rfl
      exact Bool.eq_false_iff.2 hcounts

/-- A row is not added just if its key is taken. -/
theorem Rows.addRow_eq_error_iff {α κ : Type} [Row α κ] [DecidableEq κ] {rows : Rows α} {a : α}
    {c : Cause} : addRow rows a = .error c ↔ rows.has (Row.key a) = true ∧ c = .uniqueness := by
  rw [addRow, elim_error_eq_error_iff, add?, has_iff]
  split
  · rename_i hmem
    have htaken : ∃ b ∈ rows.list, Row.key b = Row.key a := List.mem_map.1 hmem
    exact and_congr_left' (iff_of_true rfl htaken)
  · rename_i hmem
    simpa using fun a ha hkey ↦ absurd (List.mem_map.2 ⟨a, ha, hkey⟩) hmem

namespace Store

variable {now : Nat} {s s' : Store}

/-- A deletion of some tweets of `user` would go too far. -/
def TooDeep (s : Store) (user : Int) : Prop :=
  ∃ ids, s.doomed ids = .error .other ∧
    ∀ id ∈ ids, ∃ t ∈ s.tweets.list, t.id = id ∧ t.userId = user

/-- The application can read the store, and all numbers in it were given. -/
structure Orderly (s : Store) : Prop extends Readable s where
  tags : s.TagsNumbered
  notices : s.NotificationsNumbered

theorem Orderly.change (hchange : Change now s s') (h : s.Orderly) : s'.Orderly where
  toReadable := h.toReadable.change hchange
  tags := h.tags.change hchange h.grounded
  notices := h.notices.change hchange

/-! ## Tweets -/

/-- Why a tweet is not added. -/
theorem of_insertTweet_error (h : s.Readable) {user : Int} {content : Option String}
    (parent target : Option Int) {time : String} {c : Cause}
    (hfail : s.insertTweet {
      userId := some (.int user)
      content := content
      parentId := parent.map .int
      retweetId := target.map .int
      createdAt := some time
      updatedAt := some time } = .error c) :
    c = .other ∧ s.counters.tweets = Decimal.greatest ∨
      c = .check ∧ target ≠ none ∧ content ≠ none ∨
      c = .uniqueness ∧ (∃ r, target = some r ∧
        ∃ t ∈ s.tweets.list, t.userId = user ∧ t.retweetId = some r) ∨
      c = .reference ∧ ¬(s.users.has user = true ∧ (∀ p, parent = some p → s.tweets.has p = true) ∧
        ∀ r, target = some r → s.tweets.has r = true) := by
  have hfresh : ¬s.tweets.has (s.counters.tweets + 1) = true := h.grounded.not_has_newTweet
  simp only [insertTweet, requireAdding, bind_eq_error_iff, need_eq_error_iff, need_eq_ok_iff,
    demand_eq_error_iff, demand_eq_ok_iff, pure_ne_error, chooseId_none_eq_error_iff,
    chooseId_none_eq_ok_iff, named_int, mapM_named_int, h.equipped.require,
    Rows.addRow_eq_error_iff, Option.some.injEq, exists_eq_left', Except.ok.injEq, reduceCtorEq,
    false_and, true_and, false_or, or_false, exists_false, and_false, exists_const] at hfail
  rcases hfail with ⟨hfull, rfl⟩ | ⟨_, ⟨-, rfl⟩, ⟨hcheck, rfl⟩ | ⟨-, ⟨htaken, rfl⟩ | ⟨-,
    ⟨htwice, rfl⟩ | ⟨-, ⟨htaken, rfl⟩ | ⟨tweets, hadd, hmissing, rfl⟩⟩⟩⟩⟩
  · exact .inl ⟨rfl, Int.le_antisymm h.grounded.tweetsFit.2 (Int.not_lt.1 hfull)⟩
  · rw [not_or, not_and_or, Option.map_eq_none_iff] at hcheck
    exact .inr (.inl ⟨rfl, hcheck.1, hcheck.2.resolve_right (not_not_intro trivial)⟩)
  · exact absurd htaken (not_not_intro hfresh)
  · rw [not_or, not_or, ← ne_eq target, Option.ne_none_iff_exists'] at htwice
    obtain ⟨-, ⟨r, rfl⟩, htwice⟩ := htwice
    push Not at htwice
    exact .inr (.inr (.inl ⟨rfl, r, rfl, htwice⟩))
  · exact absurd htaken hfresh
  · refine .inr (.inr (.inr ⟨rfl, ?_⟩))
    rintro ⟨huser, hparent, htarget⟩
    refine hmissing ⟨huser, ?_, ?_⟩
    · rw [Option.all_eq_true]
      exact fun p hp ↦ Rows.has_of_append (Rows.of_addRow hadd).1 (hparent p hp)
    · rw [Option.all_eq_true]
      exact fun r hr ↦ Rows.has_of_append (Rows.of_addRow hadd).1 (htarget r hr)

/-- Posting fails only when all numbers are given, for an author and a parent that are there. -/
theorem of_createTweet_error (h : s.Readable) {user : Int} {content : Option String}
    {parent : Option Int} {e : StoreError} (huser : s.users.has user = true)
    (hparent : ∀ p, parent = some p → s.tweets.has p = true)
    (hfail : s.createTweet now user content parent = .error e) :
    s.counters.tweets = Decimal.greatest := by
  simp only [createTweet, bind_eq_error_iff, during_eq_error_iff, during_eq_ok_iff, pure_ne_error,
    and_false, exists_false, or_false] at hfail
  rcases hfail with ⟨c, hinsert, -⟩ | ⟨⟨id, s₁⟩, hinsert, c, hfetch, -⟩
  · rcases of_insertTweet_error h parent none hinsert with ⟨-, hfull⟩ | ⟨-, hnone, -⟩ |
      ⟨-, r, hnone, -⟩ | ⟨-, hmissing⟩
    · exact hfull
    · exact absurd rfl hnone
    · cases hnone
    · exact absurd ⟨huser, hparent, by simp⟩ hmissing
  · obtain rfl := id_of_insertTweet parent none hinsert
    obtain ⟨tweets, hposted, rfl⟩ := of_insertTweet parent none hinsert
    cases parent with
    | none =>
      obtain ⟨time, hget⟩ := get?_posted hposted
      have hread := StoredTweet.read_eq (t := s.newTweet user content none none time) rfl rfl rfl
      have hget' : (s.withPosted tweets).tweets.get? (s.counters.tweets + 1) = _ := hget
      simp [hget', hread] at hfetch
    | some p =>
      obtain ⟨row, t, hget, hread, -⟩ := read_posted hposted p
        (fun t ↦ { t with replyCount := t.replyCount.increment }) (fun _ ↦ rfl)
        fun time ↦ ⟨_, StoredTweet.read_eq rfl rfl rfl⟩
      have hget' : ((s.withPosted tweets).changeReplies p Cell.increment).tweets.get?
          (s.counters.tweets + 1) = some row := hget
      simp [hget', hread] at hfetch

/-- Retweeting fails only when all numbers are given, for somebody and a tweet who are there. -/
theorem of_createRetweet_error (h : s.Readable) {user r : Int} {e : StoreError}
    (huser : s.users.has user = true) (htarget : s.tweets.has r = true)
    (hfail : s.createRetweet now user r = .error e) : s.counters.tweets = Decimal.greatest := by
  simp only [createRetweet, bind_eq_error_iff, during_eq_error_iff, during_eq_ok_iff,
    ignoring_eq_error_iff] at hfail
  rcases hfail with ⟨c, ⟨hinsert, hcounts⟩, -⟩ | ⟨added, hadded, hfail⟩
  · rcases of_insertTweet_error h none (some r) hinsert with ⟨-, hfull⟩ | ⟨rfl, -⟩ | ⟨rfl, -⟩ |
      ⟨-, hmissing⟩
    · exact hfull
    · cases hcounts
    · cases hcounts
    · exact absurd ⟨huser, by simp, fun r' hr' ↦ Option.some.inj hr' ▸ htarget⟩ hmissing
  · rcases of_ignoring hadded with rfl | ⟨⟨id, s₁⟩, hinsert, rfl⟩
    · exact absurd hfail pure_ne_error
    · obtain rfl := id_of_insertTweet none (some r) hinsert
      obtain ⟨tweets, hposted, rfl⟩ := of_insertTweet none (some r) hinsert
      obtain ⟨row, t, hget, hread, -⟩ := read_posted hposted r
        (fun t ↦ { t with retweetCount := t.retweetCount.increment }) (fun _ ↦ rfl)
        fun time ↦ ⟨_, StoredTweet.read_eq rfl rfl rfl⟩
      have hget' : ((s.withPosted tweets).changeRetweets r Cell.increment).tweets.get?
          (s.counters.tweets + 1) = some row := hget
      simp only [bind_eq_error_iff, during_eq_error_iff, pure_ne_error, and_false, exists_false,
        or_false] at hfail
      obtain ⟨c, hfetch, -⟩ := hfail
      rw [hget', Option.mapM_some, hread] at hfetch
      cases hfetch

/-- A deletion fails only if the search for what goes away does. -/
theorem doomed_of_deleteTweets_error (h : s.Readable) {p : StoredTweet → Bool} {c : Cause}
    (hfail : s.deleteTweets p = .error c) :
    s.doomed ((s.tweets.list.filter p).map StoredTweet.id) = .error .other := by
  simp only [deleteTweets, requireDeleting, h.equipped.require, bind_eq_error_iff, pure_ne_error,
    and_false, exists_false, or_false, reduceCtorEq, false_or, exists_const, true_and] at hfail
  have hcause : c = .other := by
    rw [doomed, elim_error_eq_error_iff] at hfail
    exact hfail.2
  rw [hfail, hcause]

/-- A deletion fails only if it would go too far. -/
theorem of_deleteTweets_error (h : s.Readable) {p : StoredTweet → Bool} {c : Cause}
    (hfail : s.deleteTweets p = .error c) {user : Int} (hp : ∀ t, p t = true → t.userId = user) :
    s.TooDeep user := by
  refine ⟨_, doomed_of_deleteTweets_error h hfail, fun id hid ↦ ?_⟩
  obtain ⟨t, ht, rfl⟩ := List.mem_map.1 hid
  rw [List.mem_filter] at ht
  exact ⟨t, ht.1, rfl, hp t ht.2⟩

theorem of_deleteTweet_error (h : s.Readable) {id user : Int} {e : StoreError}
    (hfail : s.deleteTweet id user = .error e) : s.TooDeep user := by
  simp only [deleteTweet, h.equipped.require, bind_eq_error_iff, during_eq_error_iff, reduceCtorEq,
    false_and, exists_false, false_or] at hfail
  obtain ⟨-, -, hfail⟩ := hfail
  split at hfail
  · exact absurd hfail pure_ne_error
  · simp only [bind_eq_error_iff, during_eq_error_iff, pure_ne_error, and_false, exists_false,
      or_false] at hfail
    obtain ⟨c, hdelete, -⟩ := hfail
    exact of_deleteTweets_error h hdelete fun t ht ↦ (of_decide_eq_true ht).2

theorem of_deleteRetweet_error (h : s.Readable) {user target : Int} {e : StoreError}
    (hfail : s.deleteRetweet user target = .error e) : s.TooDeep user := by
  simp only [deleteRetweet, bind_eq_error_iff, during_eq_error_iff] at hfail
  rcases hfail with ⟨c, hdelete, -⟩ | ⟨⟨n, s'⟩, -, hfail⟩
  · exact of_deleteTweets_error h hdelete fun t ht ↦ (of_decide_eq_true ht).1
  · split at hfail <;> exact absurd hfail pure_ne_error

/-! ## Likes, follows and profiles -/

/-- Why a like is not added. -/
theorem of_insertLike_error (h : s.Readable) {user tweet : Int} {time : String} {c : Cause}
    (hfail : s.insertLike {
      userId := some (.int user)
      tweetId := some (.int tweet)
      createdAt := some time } = .error c) :
    c.isIgnored = true ∧ s.likes.has (user, tweet) = true ∨
      ¬(s.users.has user = true ∧ s.tweets.has tweet = true) := by
  simp only [insertLike, requireAdding, h.equipped.require, chooseSerial_none, named_int,
    bind_eq_error_iff, need_eq_error_iff, need_eq_ok_iff, demand_eq_error_iff,
    Rows.addRow_eq_error_iff, pure_ne_error, Option.some.injEq, Except.ok.injEq, exists_eq_left',
    exists_const, reduceCtorEq, false_and, and_false, true_and, false_or, or_false] at hfail
  rcases hfail with ⟨htaken, rfl⟩ | ⟨_, -, hmissing, -⟩
  · exact .inl ⟨rfl, htaken⟩
  · exact .inr hmissing

theorem has_of_like {user tweet k : Int} {b : Bool} (h : s.like now user tweet = .ok (b, s')) :
    s'.tweets.has k = s.tweets.has k := by
  rcases of_like h with ⟨-, rfl⟩ | ⟨-, _, _, -, -, -, -, -, rfl⟩
  · rfl
  · simp [changeLikes]

/-- Liking does not fail, for somebody and a tweet who are there. -/
theorem like_ne_error (h : s.Readable) {user tweet : Int} (huser : s.users.has user = true)
    (htweet : s.tweets.has tweet = true) (e : StoreError) : s.like now user tweet ≠ .error e := by
  intro hfail
  simp only [like, bind_eq_error_iff, during_eq_error_iff, ignoring_eq_error_iff] at hfail
  rcases hfail with ⟨c, ⟨hinsert, hcounts⟩, -⟩ | ⟨added, -, hfail⟩
  · rcases of_insertLike_error h hinsert with ⟨hignored, -⟩ | hmissing
    · exact absurd (hcounts.symm.trans hignored) Bool.false_ne_true
    · exact hmissing ⟨huser, htweet⟩
  · split at hfail <;> exact pure_ne_error hfail

theorem unlike_ne_error (h : s.Readable) (user tweet : Int) (e : StoreError) :
    s.unlike user tweet ≠ .error e := by
  intro hfail
  simp only [unlike, deleteLikes, requireDeleting, h.equipped.require, bind_eq_error_iff,
    during_eq_error_iff, pure_ne_error, reduceCtorEq, false_and, and_false, exists_const,
    exists_false, false_or] at hfail
  obtain ⟨⟨n, s'⟩, -, hfail⟩ := hfail
  split at hfail <;> exact pure_ne_error hfail

/-- Why a follow is not added. -/
theorem of_insertFollow_error (h : s.Readable) {follower target : Int} {time : String} {c : Cause}
    (hfail : s.insertFollow {
      followerId := some (.int follower)
      followingId := some (.int target)
      createdAt := some time } = .error c) :
    c.isIgnored = true ∧ (follower = target ∨ s.follows.has (follower, target) = true) ∨
      ¬(s.users.has follower = true ∧ s.users.has target = true) := by
  simp only [insertFollow, requireAdding, h.equipped.require, chooseSerial_none, named_int,
    bind_eq_error_iff, need_eq_error_iff, need_eq_ok_iff, demand_eq_error_iff, demand_eq_ok_iff,
    Rows.addRow_eq_error_iff, pure_ne_error, Option.some.injEq, Except.ok.injEq, exists_eq_left',
    exists_const, reduceCtorEq, false_and, and_false, true_and, false_or, or_false] at hfail
  rcases hfail with ⟨hself, rfl⟩ | ⟨-, ⟨htaken, rfl⟩ | ⟨_, -, hmissing, -⟩⟩
  · exact .inl ⟨rfl, .inl (by simpa using hself)⟩
  · exact .inl ⟨rfl, .inr htaken⟩
  · exact .inr hmissing

/-- Following does not fail, for two accounts that are there. -/
theorem follow_ne_error (h : s.Readable) {follower target : Int}
    (hfollower : s.users.has follower = true) (htarget : s.users.has target = true)
    (e : StoreError) : s.follow now follower target ≠ .error e := by
  intro hfail
  simp only [follow, bind_eq_error_iff, during_eq_error_iff, ignoring_eq_error_iff] at hfail
  rcases hfail with ⟨c, ⟨hinsert, hcounts⟩, -⟩ | ⟨added, -, hfail⟩
  · rcases of_insertFollow_error h hinsert with ⟨hignored, -⟩ | hmissing
    · exact absurd (hcounts.symm.trans hignored) Bool.false_ne_true
    · exact hmissing ⟨hfollower, htarget⟩
  · split at hfail <;> exact pure_ne_error hfail

theorem unfollow_ne_error (h : s.Readable) (follower target : Int) (e : StoreError) :
    s.unfollow follower target ≠ .error e := by
  intro hfail
  simp only [unfollow, deleteFollows, requireDeleting, h.equipped.require, bind_eq_error_iff,
    during_eq_error_iff, pure_ne_error, reduceCtorEq, false_and, and_false, exists_const,
    exists_false, false_or] at hfail
  obtain ⟨⟨n, s'⟩, -, hfail⟩ := hfail
  split at hfail <;> exact pure_ne_error hfail

theorem writeProfile_ne_error (h : s.Readable) (id : Int) (profile : Profile) (e : StoreError) :
    s.writeProfile now id profile ≠ .error e := by
  intro hfail
  simp only [writeProfile, h.equipped.require, bind_eq_error_iff, during_eq_error_iff,
    reduceCtorEq, false_or] at hfail
  obtain ⟨c, ⟨-, -, hfail⟩, -⟩ := hfail
  split at hfail <;> exact pure_ne_error hfail

/-! ## Notifications -/

/-- A notification is not added only when all numbers are given, for people and a tweet who are
there. -/
theorem of_createNotification_error (h : s.Orderly) {new : NewNotification} {e : StoreError}
    (hrecipient : s.users.has new.recipientId = true) (hactor : s.users.has new.actorId = true)
    (htweet : ∀ t, new.tweetId = some t → s.tweets.has t = true)
    (hfail : s.createNotification now new = .error e) :
    ¬s.counters.notifications < Decimal.greatest := by
  have hfresh : ¬s.notifications.has (s.counters.notifications + 1) = true := by
    intro hhas
    obtain ⟨m, hm, hid⟩ := Rows.has_iff.1 hhas
    have hid : m.id = s.counters.notifications + 1 := hid
    have hlast := h.notices m hm
    omega
  simp only [createNotification, bind_eq_error_iff, during_eq_error_iff, during_eq_ok_iff,
    pure_ne_error, and_false, exists_false, or_false] at hfail
  rcases hfail with ⟨c, hinsert, -⟩ | ⟨⟨id, s₁⟩, hinsert, c, hfetch, -⟩
  · simp only [insertNotification, requireAdding, h.equipped.require, named_int, mapM_named_int,
      bind_eq_error_iff, need_eq_error_iff, need_eq_ok_iff, demand_eq_error_iff, demand_eq_ok_iff,
      chooseId_none_eq_error_iff, chooseId_none_eq_ok_iff, Rows.addRow_eq_error_iff, pure_ne_error,
      Option.some.injEq, Except.ok.injEq, exists_eq_left', exists_const, reduceCtorEq, false_and,
      and_false, true_and, false_or, or_false] at hinsert
    rcases hinsert with ⟨hfull, -⟩ | ⟨_, ⟨-, rfl⟩, ⟨htaken, -⟩ | ⟨-, ⟨htaken, -⟩ |
      ⟨_, -, hmissing, -⟩⟩⟩
    · exact hfull
    · exact absurd hfresh htaken
    · exact absurd htaken hfresh
    · rw [Option.all_eq_true] at hmissing
      exact absurd ⟨hrecipient, hactor, htweet⟩ hmissing
  · obtain ⟨notifications, -, -, -, -, -, hget, rfl⟩ := of_insertNotification hinsert
    -- the row that is looked up again is the one that was just added, which can be read
    have hread : ∃ n, (s.newNotification new (stamp now)).read = .ok n := by
      rw [StoredNotification.read, newNotification, NotificationKind.ofName?_name]
      exact ⟨_, rfl⟩
    obtain ⟨n, hn⟩ := hread
    simp [hget, hn] at hfetch

theorem markRead_ne_error (h : s.Readable) (recipient : Int) (e : StoreError) :
    s.markRead recipient ≠ .error e := by
  intro hfail
  simp only [markRead, h.equipped.require, bind_eq_error_iff, during_eq_error_iff, pure_ne_error,
    reduceCtorEq, false_and, and_false, exists_false, or_false] at hfail

end Store

end Microblog
