import Microblog.Proofs.Store.Thread
import Microblog.Store.Follows
import Microblog.Store.Hashtags
import Microblog.Store.Notifications
import Microblog.Store.Tweets
import Microblog.Store.Users

/-!
# What a statement writes

For every statement that writes there is one theorem here, `Store.of_` and the name of the
statement.  It starts from the outcome of a statement that succeeded and says which rows it added,
changed or took out, and which of the conditions that it checked held before.  Whoever wants to know
what a statement does uses its theorem and does not open the statement again.

A statement that fails gives no store, so there is nothing to say about it.
-/

set_option autoImplicit false

namespace Microblog

open Text

/-! ## Opening an outcome -/

theorem bind_eq_ok_iff {ε α β : Type} {x : Except ε α} {f : α → Except ε β} {b : β} :
    (x >>= f) = .ok b ↔ ∃ a, x = .ok a ∧ f a = .ok b := by
  cases x with
  | error e => simp [bind, Except.bind]
  | ok a => simp [bind, Except.bind]

theorem pure_eq_ok_iff {ε α : Type} {a b : α} : (pure a : Except ε α) = .ok b ↔ a = b :=
  ⟨Except.ok.inj, congrArg _⟩

theorem need_eq_ok_iff {α : Type} {o : Option α} {a : α} : need o = .ok a ↔ o = some a := by
  cases o <;> simp [need]

theorem elim_error_eq_ok_iff {ε α : Type} {e : ε} {o : Option α} {a : α} :
    o.elim (Except.error e) Except.ok = .ok a ↔ o = some a := by
  cases o <;> simp

theorem demand_eq_ok_iff {cause : Cause} {p : Prop} [Decidable p] {u : Unit} :
    demand cause p = .ok u ↔ p := by
  rw [demand]
  split <;> simp [*]

theorem during_eq_ok_iff {α : Type} {task : String} {x : Except Cause α} {a : α} :
    during task x = .ok a ↔ x = .ok a := by
  cases x <;> simp [during]

theorem named_eq_ok_iff {c : Cell} {n : Int} : named c = .ok n ↔ c = .int n := by
  cases c <;> simp [named]

theorem mapM_named_int (o : Option Int) : (o.map Cell.int).mapM named = .ok o := by
  cases o <;> rfl

theorem mapM_eq_ok_some_iff {ε α β : Type} {f : α → Except ε β} {o : Option α} {b : β} :
    o.mapM f = .ok (some b) ↔ ∃ a, o = some a ∧ f a = .ok b := by
  cases o with
  | none => simp [pure, Except.pure]
  | some a => cases h : f a <;> simp [h, Functor.map, Except.map]

theorem chooseId_none_eq_ok_iff {last id : Int} :
    chooseId none last = .ok id ↔ last < Decimal.greatest ∧ last + 1 = id := by
  rw [chooseId, Option.elim_none, nextId]
  split <;> simp [*]

/-- An insertion that ignores conflicts has added its row, or has gone on without it. -/
theorem of_ignoring {α : Type} {x : Except Cause α} {o : Option α} (h : ignoring x = .ok o) :
    o = none ∨ ∃ a, x = .ok a ∧ o = some a := by
  cases x with
  | ok a => exact .inr ⟨a, rfl, (Except.ok.inj h).symm⟩
  | error c =>
    rw [ignoring] at h
    split at h
    · exact .inl (Except.ok.inj h).symm
    · simp at h

namespace Store

variable {now : Nat} {s s' : Store}

/-! ## Accounts -/

/-- The row of a new account. -/
def newUser (s : Store) (new : NewUser) (time : String) : StoredUser where
  id := s.counters.users + 1
  username := new.username
  email := new.email
  displayName := new.displayName
  bio := new.bio
  avatarUrl := new.avatarUrl
  followersCount := .int 0
  followingCount := .int 0
  createdAt := time
  updatedAt := time

theorem of_createUser {new : NewUser} {u : User} (h : s.createUser now new = .ok (u, s')) :
    ∃ time users, s.counters.users < Decimal.greatest ∧
      users.list = s.users.list ++ [s.newUser new time] ∧
      s' = { s with users, counters.users := s.counters.users + 1 } := by
  simp only [createUser, insertUser, bind_eq_ok_iff, during_eq_ok_iff, need_eq_ok_iff,
    demand_eq_ok_iff, pure_eq_ok_iff, chooseId_none_eq_ok_iff, Option.some.injEq,
    exists_eq_left', Prod.mk.injEq] at h
  obtain ⟨_, ⟨-, -, _, ⟨hlast, rfl⟩, users, hadd, -, -, rfl⟩, -, -, -, rfl⟩ := h
  refine ⟨stamp now, users, hlast, (Rows.of_addRow hadd).1, ?_⟩
  rw [Int.max_eq_right (by omega)]

theorem of_writeProfile {id : Int} {profile : Profile} {b : Bool}
    (h : s.writeProfile now id profile = .ok (b, s')) :
    (b = false ∧ s' = s) ∨ b = true ∧ ∃ time, s' = { s with
      users := s.users.changeAt id
        (fun u ↦
          { u with displayName := profile.displayName, bio := profile.bio, updatedAt := time })
        fun _ ↦ rfl } := by
  simp only [writeProfile, during_eq_ok_iff, bind_eq_ok_iff] at h
  obtain ⟨-, -, h⟩ := h
  split at h
  · simp only [pure_eq_ok_iff, Prod.mk.injEq] at h
    exact .inr ⟨h.1.symm, stamp now, h.2.symm⟩
  · simp only [pure_eq_ok_iff, Prod.mk.injEq] at h
    exact .inl ⟨h.1.symm, h.2.symm⟩

/-! ## Follows -/

theorem of_insertFollow {follower target serial : Int} {time : String}
    (h : s.insertFollow {
      followerId := some (.int follower)
      followingId := some (.int target)
      createdAt := some time } = .ok (serial, s')) :
    ∃ follows, follower ≠ target ∧ s.users.has follower = true ∧
      s.users.has target = true ∧
      follows.list = s.follows.list ++ [⟨follower, target, time, serial⟩] ∧
      s' = { s with follows } := by
  simp only [insertFollow, bind_eq_ok_iff, need_eq_ok_iff, demand_eq_ok_iff, pure_eq_ok_iff,
    named_eq_ok_iff, Option.some.injEq, exists_eq_left', Cell.int.injEq, ne_eq, Prod.mk.injEq]
    at h
  obtain ⟨-, -, -, hne, serial, -, follows, hadd, -, ⟨huser, htarget⟩, rfl, rfl⟩ := h
  exact ⟨follows, hne, huser, htarget, (Rows.of_addRow hadd).1, rfl⟩

theorem of_follow {follower target : Int} {b : Bool}
    (h : s.follow now follower target = .ok (b, s')) :
    (b = false ∧ s' = s) ∨ b = true ∧ ∃ f follows, f.followerId = follower ∧
      f.followingId = target ∧ follower ≠ target ∧ s.users.has follower = true ∧
      s.users.has target = true ∧ follows.list = s.follows.list ++ [f] ∧
      s' = ({ s with follows }.changeFollowing follower Cell.increment).changeFollowers target
        Cell.increment := by
  simp only [follow, bind_eq_ok_iff, during_eq_ok_iff] at h
  obtain ⟨added, hadded, h⟩ := h
  rcases of_ignoring hadded with rfl | ⟨⟨serial, s₁⟩, hinsert, rfl⟩
  · simp only [pure_eq_ok_iff, Prod.mk.injEq] at h
    exact .inl ⟨h.1.symm, h.2.symm⟩
  · simp only [pure_eq_ok_iff, Prod.mk.injEq] at h
    obtain ⟨rfl, rfl⟩ := h
    obtain ⟨follows, hne, huser, htarget, hlist, rfl⟩ := of_insertFollow hinsert
    exact .inr ⟨rfl, _, follows, rfl, rfl, hne, huser, htarget, hlist, rfl⟩

theorem of_unfollow {follower target : Int} {b : Bool}
    (h : s.unfollow follower target = .ok (b, s')) :
    (b = false ∧ s' = s) ∨ b = true ∧ ∃ f ∈ s.follows.list, f.followerId = follower ∧
      f.followingId = target ∧
      s' = ({ s with follows := s.follows.keep fun g ↦
        !(g.followerId = follower ∧ g.followingId = target) }.changeFollowing follower
          Cell.decrement).changeFollowers target Cell.decrement := by
  simp only [unfollow, deleteFollows, bind_eq_ok_iff, during_eq_ok_iff, pure_eq_ok_iff] at h
  obtain ⟨_, ⟨-, -, rfl⟩, h⟩ := h
  split at h
  · rename_i hnone
    rw [Rows.keep_not_eq_self hnone] at h
    simp only [pure_eq_ok_iff, Prod.mk.injEq] at h
    exact .inl ⟨h.1.symm, h.2.symm⟩
  · rename_i hsome
    obtain ⟨f, hf⟩ := List.exists_mem_of_length_pos (Nat.pos_of_ne_zero hsome)
    rw [List.mem_filter, decide_eq_true_eq] at hf
    simp only [pure_eq_ok_iff, Prod.mk.injEq] at h
    exact .inr ⟨h.1.symm, f, hf.1, hf.2.1, hf.2.2, h.2.symm⟩

/-! ## Posting and deleting -/

/-- The row of a new tweet. -/
def newTweet (s : Store) (user : Int) (content : Option String) (parent target : Option Int)
    (time : String) : StoredTweet where
  id := s.counters.tweets + 1
  userId := user
  content := content
  mediaType := some "NONE"
  mediaUrl := none
  parentId := parent
  retweetId := target
  replyCount := .int 0
  retweetCount := .int 0
  likeCount := .int 0
  createdAt := time
  updatedAt := time

/-- `tweets` is the table of tweets with a new one, and the conditions on a new tweet held. -/
structure Posted (s : Store) (user : Int) (content : Option String) (parent target : Option Int)
    (tweets : Rows StoredTweet) : Prop where
  room : s.counters.tweets < Decimal.greatest
  list : ∃ time, tweets.list = s.tweets.list ++ [s.newTweet user content parent target time]
  /-- The author is stored. -/
  author : s.users.has user = true
  /-- The tweet that it answers is stored; it may be the new one. -/
  answered : ∀ p, parent = some p → tweets.has p = true
  /-- The tweet that it retweets is stored; it may be the new one. -/
  retweeted : ∀ r, target = some r → tweets.has r = true
  /-- A retweet record has no content. -/
  bare : target = none ∨ content = none
  /-- Nobody retweets a tweet twice, while the index that says so is there. -/
  unique : s.schema.hasIndex .oneRetweet = true → ∀ r, target = some r →
    ∀ t ∈ s.tweets.list, t.userId = user → t.retweetId ≠ some r

/-- The store with a new tweet. -/
def withPosted (s : Store) (tweets : Rows StoredTweet) : Store :=
  { s with tweets, counters.tweets := s.counters.tweets + 1 }

theorem of_insertTweet {user id : Int} {content : Option String} (parent target : Option Int)
    {time : String}
    (h : s.insertTweet {
      userId := some (.int user)
      content := content
      parentId := parent.map .int
      retweetId := target.map .int
      createdAt := some time
      updatedAt := some time } = .ok (id, s')) :
    ∃ tweets, s.Posted user content parent target tweets ∧ s' = s.withPosted tweets := by
  simp only [insertTweet, bind_eq_ok_iff, need_eq_ok_iff, demand_eq_ok_iff, pure_eq_ok_iff,
    chooseId_none_eq_ok_iff, named_eq_ok_iff, mapM_named_int, Option.some.injEq, exists_eq_left',
    Except.ok.injEq, Cell.int.injEq, Option.map_eq_none_iff, exists_and_left, exists_const,
    Prod.mk.injEq] at h
  obtain ⟨-, -, _, ⟨hlast, rfl⟩, hbare, -, hunique, tweets, hadd, ⟨huser, hparent, htarget⟩, -,
    rfl⟩ := h
  refine ⟨tweets, ⟨hlast, ⟨time, (Rows.of_addRow hadd).1⟩, huser, ?_, ?_, ?_, ?_⟩, ?_⟩
  · rintro p rfl
    exact hparent
  · rintro r rfl
    exact htarget
  · exact hbare.imp_right And.left
  · rintro hindex r rfl t ht hu hr
    rcases hunique with hno | hnone | hunique
    · exact hno hindex
    · simp at hnone
    · exact hunique t ht ⟨hu, hr⟩
  · rw [withPosted, Int.max_eq_right (by omega)]

/-- A new tweet gets the next number. -/
theorem id_of_insertTweet {user id : Int} {content : Option String} (parent target : Option Int)
    {time : String}
    (h : s.insertTweet {
      userId := some (.int user)
      content := content
      parentId := parent.map .int
      retweetId := target.map .int
      createdAt := some time
      updatedAt := some time } = .ok (id, s')) : id = s.counters.tweets + 1 := by
  simp only [insertTweet, bind_eq_ok_iff, need_eq_ok_iff, demand_eq_ok_iff, pure_eq_ok_iff,
    chooseId_none_eq_ok_iff, named_eq_ok_iff, mapM_named_int, Option.some.injEq, exists_eq_left',
    Except.ok.injEq, Cell.int.injEq, exists_and_left, exists_const, Prod.mk.injEq] at h
  obtain ⟨-, -, _, ⟨-, rfl⟩, -, -, -, _, -, -, hid, -⟩ := h
  exact hid.symm

theorem of_createTweet {user : Int} {content : Option String} {parent : Option Int} {t : Tweet}
    (h : s.createTweet now user content parent = .ok (t, s')) :
    ∃ tweets, s.Posted user content parent none tweets ∧
      s' = parent.elim (s.withPosted tweets) fun p ↦
        (s.withPosted tweets).changeReplies p Cell.increment := by
  simp only [createTweet, bind_eq_ok_iff, during_eq_ok_iff, pure_eq_ok_iff, Prod.mk.injEq] at h
  obtain ⟨⟨id, s₁⟩, hinsert, -, -, -, rfl⟩ := h
  obtain ⟨tweets, hposted, rfl⟩ := of_insertTweet parent none hinsert
  exact ⟨tweets, hposted, rfl⟩

theorem of_createRetweet {user target : Int} {o : Option Tweet}
    (h : s.createRetweet now user target = .ok (o, s')) :
    s' = s ∨ ∃ tweets, s.Posted user none none (some target) tweets ∧
      s' = (s.withPosted tweets).changeRetweets target Cell.increment := by
  simp only [createRetweet, bind_eq_ok_iff, during_eq_ok_iff] at h
  obtain ⟨added, hadded, h⟩ := h
  rcases of_ignoring hadded with rfl | ⟨⟨id, s₁⟩, hinsert, rfl⟩
  · simp only [pure_eq_ok_iff, Prod.mk.injEq] at h
    exact .inl h.2.symm
  · simp only [bind_eq_ok_iff, during_eq_ok_iff, pure_eq_ok_iff, Prod.mk.injEq] at h
    obtain ⟨-, -, -, rfl⟩ := h
    obtain ⟨tweets, hposted, rfl⟩ := of_insertTweet none (some target) hinsert
    exact .inr ⟨tweets, hposted, rfl⟩

theorem withoutTweets_nil : s.withoutTweets [] = s := by
  have htweets : s.tweets.keep (fun t ↦ !([] : List Int).contains t.id) = s.tweets :=
    Rows.keep_eq_self fun _ _ ↦ rfl
  have hlikes : s.likes.keep (fun l ↦ !([] : List Int).contains l.tweetId) = s.likes :=
    Rows.keep_eq_self fun _ _ ↦ rfl
  have hnotes : s.notifications.keep (fun n ↦ !n.tweetId.any ([] : List Int).contains) =
      s.notifications := Rows.keep_eq_self fun n _ ↦ by cases h : n.tweetId <;> simp
  have hlinks : s.tagLinks.keep (fun l ↦ !([] : List Int).contains l.tweetId) = s.tagLinks :=
    Rows.keep_eq_self fun _ _ ↦ rfl
  rw [withoutTweets, htweets, hlikes, hnotes, hlinks]

/-- A deletion takes out the tweets that it starts with and all that hangs on them. -/
theorem of_deleteTweets {p : StoredTweet → Bool} {n : Nat}
    (h : s.deleteTweets p = .ok (n, s')) :
    n = (s.tweets.list.filter p).length ∧ ∃ D : List Int,
      (∀ d, d ∈ D ↔
        StoredTweet.Doomed s.tweets.list ((s.tweets.list.filter p).map StoredTweet.id) d) ∧
      s' = s.withoutTweets D := by
  simp only [deleteTweets, doomed, bind_eq_ok_iff, elim_error_eq_ok_iff, pure_eq_ok_iff,
    Prod.mk.injEq, List.length_map] at h
  obtain ⟨-, -, D, hsearch, hn, hs'⟩ := h
  exact ⟨hn.symm, D, fun d ↦ StoredTweet.mem_of_spread? hsearch, hs'.symm⟩

theorem of_deleteTweet {id user : Int} {b : Bool}
    (h : s.deleteTweet id user = .ok (b, s')) :
    (b = false ∧ s' = s) ∨ b = true ∧ ∃ t ∈ s.tweets.list, t.id = id ∧ t.userId = user ∧
      ∃ D : List Int, (∀ d, d ∈ D ↔ StoredTweet.Doomed s.tweets.list [id] d) ∧
        s' = t.parentId.elim (s.withoutTweets D) fun p ↦
          (s.withoutTweets D).changeReplies p Cell.decrement := by
  simp only [deleteTweet, bind_eq_ok_iff, during_eq_ok_iff] at h
  obtain ⟨-, -, h⟩ := h
  split at h
  · simp only [pure_eq_ok_iff, Prod.mk.injEq] at h
    exact .inl ⟨h.1.symm, h.2.symm⟩
  · rename_i t hfound
    rw [Option.filter_eq_some_iff, Rows.get?_eq_some_iff, decide_eq_true_eq] at hfound
    obtain ⟨⟨ht, rfl⟩, rfl⟩ := hfound
    simp only [bind_eq_ok_iff, during_eq_ok_iff, pure_eq_ok_iff, Prod.mk.injEq] at h
    obtain ⟨⟨n, s₁⟩, hdelete, rfl, rfl⟩ := h
    obtain ⟨-, D, hD, rfl⟩ := of_deleteTweets hdelete
    have hroot : (s.tweets.list.filter fun u ↦ decide (u.id = Row.key t ∧ u.userId = t.userId)) =
        [t] := Rows.filter_eq_singleton ht fun u hu ↦ by
      rw [decide_eq_true_eq]
      exact ⟨fun hu' ↦ Rows.eq_of_key_eq hu ht hu'.1, fun hut ↦ hut ▸ ⟨rfl, rfl⟩⟩
    rw [hroot] at hD
    exact .inr ⟨rfl, t, ht, rfl, rfl, D, hD, rfl⟩

theorem of_deleteRetweet {user target : Int} {b : Bool}
    (h : s.deleteRetweet user target = .ok (b, s')) :
    (b = false ∧ s' = s) ∨ b = true ∧ ∃ r ∈ s.tweets.list, r.userId = user ∧
      r.retweetId = some target ∧ ∃ D : List Int,
        (∀ d, d ∈ D ↔ StoredTweet.Doomed s.tweets.list ((s.tweets.list.filter fun t ↦
          decide (t.userId = user ∧ t.retweetId = some target)).map StoredTweet.id) d) ∧
        s' = (s.withoutTweets D).changeRetweets target Cell.decrement := by
  simp only [deleteRetweet, bind_eq_ok_iff, during_eq_ok_iff] at h
  obtain ⟨⟨n, s₁⟩, hdelete, h⟩ := h
  obtain ⟨rfl, D, hD, rfl⟩ := of_deleteTweets hdelete
  split at h
  · rename_i hnone
    rw [List.length_eq_zero_iff.1 hnone] at hD
    obtain rfl : D = [] := List.eq_nil_iff_forall_not_mem.2 fun d hd ↦
      StoredTweet.not_doomed_nil ((hD d).1 hd)
    rw [withoutTweets_nil] at h
    simp only [pure_eq_ok_iff, Prod.mk.injEq] at h
    exact .inl ⟨h.1.symm, h.2.symm⟩
  · rename_i hsome
    obtain ⟨r, hr⟩ := List.exists_mem_of_length_pos (Nat.pos_of_ne_zero hsome)
    rw [List.mem_filter, decide_eq_true_eq] at hr
    simp only [pure_eq_ok_iff, Prod.mk.injEq] at h
    exact .inr ⟨h.1.symm, r, hr.1, hr.2.1, hr.2.2, D, hD, h.2.symm⟩

/-! ## Likes -/

theorem of_insertLike {user tweet serial : Int} {time : String}
    (h : s.insertLike {
      userId := some (.int user)
      tweetId := some (.int tweet)
      createdAt := some time } = .ok (serial, s')) :
    ∃ likes, s.users.has user = true ∧ s.tweets.has tweet = true ∧
      likes.list = s.likes.list ++ [⟨user, tweet, time, serial⟩] ∧ s' = { s with likes } := by
  simp only [insertLike, bind_eq_ok_iff, need_eq_ok_iff, demand_eq_ok_iff, pure_eq_ok_iff,
    named_eq_ok_iff, Option.some.injEq, exists_eq_left', Cell.int.injEq, Prod.mk.injEq] at h
  obtain ⟨-, -, serial, -, likes, hadd, -, ⟨huser, htweet⟩, rfl, rfl⟩ := h
  exact ⟨likes, huser, htweet, (Rows.of_addRow hadd).1, rfl⟩

theorem of_like {user tweet : Int} {b : Bool} (h : s.like now user tweet = .ok (b, s')) :
    (b = false ∧ s' = s) ∨ b = true ∧ ∃ l likes, l.userId = user ∧ l.tweetId = tweet ∧
      s.users.has user = true ∧ s.tweets.has tweet = true ∧ likes.list = s.likes.list ++ [l] ∧
      s' = { s with likes }.changeLikes tweet Cell.increment := by
  simp only [like, bind_eq_ok_iff, during_eq_ok_iff] at h
  obtain ⟨added, hadded, h⟩ := h
  rcases of_ignoring hadded with rfl | ⟨⟨serial, s₁⟩, hinsert, rfl⟩
  · simp only [pure_eq_ok_iff, Prod.mk.injEq] at h
    exact .inl ⟨h.1.symm, h.2.symm⟩
  · simp only [pure_eq_ok_iff, Prod.mk.injEq] at h
    obtain ⟨rfl, rfl⟩ := h
    obtain ⟨likes, huser, htweet, hlist, rfl⟩ := of_insertLike hinsert
    exact .inr ⟨rfl, _, likes, rfl, rfl, huser, htweet, hlist, rfl⟩

theorem of_unlike {user tweet : Int} {b : Bool} (h : s.unlike user tweet = .ok (b, s')) :
    (b = false ∧ s' = s) ∨ b = true ∧ ∃ l ∈ s.likes.list, l.userId = user ∧ l.tweetId = tweet ∧
      s' = { s with likes := s.likes.keep fun l ↦
        !(l.userId = user ∧ l.tweetId = tweet) }.changeLikes tweet Cell.decrement := by
  simp only [unlike, deleteLikes, bind_eq_ok_iff, during_eq_ok_iff, pure_eq_ok_iff] at h
  obtain ⟨_, ⟨-, -, rfl⟩, h⟩ := h
  split at h
  · rename_i hnone
    rw [Rows.keep_not_eq_self hnone] at h
    simp only [pure_eq_ok_iff, Prod.mk.injEq] at h
    exact .inl ⟨h.1.symm, h.2.symm⟩
  · rename_i hsome
    obtain ⟨l, hl⟩ := List.exists_mem_of_length_pos (Nat.pos_of_ne_zero hsome)
    rw [List.mem_filter, decide_eq_true_eq] at hl
    simp only [pure_eq_ok_iff, Prod.mk.injEq] at h
    exact .inr ⟨h.1.symm, l, hl.1, hl.2.1, hl.2.2, h.2.symm⟩

/-! ## Notifications and hashtags -/

/-- The row of a new notification. -/
def newNotification (s : Store) (new : NewNotification) (time : String) : StoredNotification where
  id := s.counters.notifications + 1
  recipientId := new.recipientId
  actorId := new.actorId
  tweetId := new.tweetId
  kind := new.kind.name
  isRead := .int 0
  createdAt := time

theorem of_insertNotification {new : NewNotification} {time : String} {id : Int}
    (h : s.insertNotification {
      recipientId := some (.int new.recipientId)
      actorId := some (.int new.actorId)
      tweetId := new.tweetId.map .int
      kind := some new.kind.name
      createdAt := some time } = .ok (id, s')) :
    ∃ notifications, s.counters.notifications < Decimal.greatest ∧
      notifications.list = s.notifications.list ++ [s.newNotification new time] ∧
      s.users.has new.recipientId = true ∧ s.users.has new.actorId = true ∧
      new.tweetId.all s.tweets.has = true ∧
      notifications.get? id = some (s.newNotification new time) ∧
      s' = { s with notifications, counters.notifications := s.counters.notifications + 1 } := by
  simp only [insertNotification, bind_eq_ok_iff, need_eq_ok_iff, demand_eq_ok_iff, pure_eq_ok_iff,
    chooseId_none_eq_ok_iff, named_eq_ok_iff, mapM_named_int, Option.some.injEq, exists_eq_left',
    Except.ok.injEq, Cell.int.injEq, Prod.mk.injEq] at h
  obtain ⟨-, -, _, ⟨hlast, rfl⟩, -, -, notifications, hadd, -, ⟨hrecipient, hactor, htweet⟩, rfl,
    rfl⟩ := h
  have hlist := (Rows.of_addRow hadd).1
  refine ⟨notifications, hlast, hlist, hrecipient, hactor, htweet, ?_, ?_⟩
  · exact Rows.get?_eq_some_iff.2 ⟨hlist ▸ List.mem_append_right _ List.mem_cons_self, rfl⟩
  · rw [Int.max_eq_right (by omega)]

theorem of_createNotification {new : NewNotification} {n : Notification}
    (h : s.createNotification now new = .ok (n, s')) :
    ∃ time notifications, s.counters.notifications < Decimal.greatest ∧
      notifications.list = s.notifications.list ++ [s.newNotification new time] ∧
      s.users.has new.recipientId = true ∧ s.users.has new.actorId = true ∧
      new.tweetId.all s.tweets.has = true ∧ (s.newNotification new time).read = .ok n ∧
      s' = { s with notifications, counters.notifications := s.counters.notifications + 1 } := by
  simp only [createNotification, bind_eq_ok_iff, during_eq_ok_iff, pure_eq_ok_iff,
    Prod.mk.injEq] at h
  obtain ⟨⟨id, s₁⟩, hinsert, n', hfound, rfl, rfl⟩ := h
  obtain ⟨notifications, hlast, hlist, hrecipient, hactor, htweet, hget, rfl⟩ :=
    of_insertNotification hinsert
  -- the row that is looked up again is the one that was just added
  rw [hget] at hfound
  exact ⟨stamp now, notifications, hlast, hlist, hrecipient, hactor, htweet, hfound, rfl⟩

theorem of_markRead {recipient : Int} {n : Nat} (h : s.markRead recipient = .ok (n, s')) :
    n = (s.notifications.list.filter (·.isUnreadBy recipient)).length ∧
      s' = { s with notifications := s.notifications.change (·.markedBy recipient) fun m ↦
        m.id_markedBy recipient } := by
  simp only [markRead, bind_eq_ok_iff, during_eq_ok_iff, pure_eq_ok_iff, Prod.mk.injEq] at h
  obtain ⟨-, -, rfl, rfl⟩ := h
  exact ⟨rfl, rfl⟩

theorem of_insertTag {name time : String} {id : Int}
    (h : s.insertTag { name := some name, createdAt := some time } = .ok (id, s')) :
    ∃ hashtags, s.counters.hashtags < Decimal.greatest ∧
      hashtags.list = s.hashtags.list ++ [⟨s.counters.hashtags + 1, name, time⟩] ∧
      (∀ tag ∈ s.hashtags.list, tag.name ≠ name) ∧
      s' = { s with hashtags, counters.hashtags := s.counters.hashtags + 1 } := by
  simp only [insertTag, bind_eq_ok_iff, need_eq_ok_iff, demand_eq_ok_iff, pure_eq_ok_iff,
    chooseId_none_eq_ok_iff, Option.some.injEq, exists_eq_left', Prod.mk.injEq] at h
  obtain ⟨-, -, _, ⟨hlast, rfl⟩, hashtags, hadd, -, hname, -, rfl⟩ := h
  refine ⟨hashtags, hlast, (Rows.of_addRow hadd).1, hname, ?_⟩
  rw [Int.max_eq_right (by omega)]

/-- A hashtag that was there already uses a number up, too. -/
theorem of_addTag {name : String} {u : Unit} (h : s.addTag now name = .ok (u, s')) :
    s' = { s with counters.hashtags := s.counters.hashtags + 1 } ∨ ∃ time hashtags,
      s.counters.hashtags < Decimal.greatest ∧
      hashtags.list = s.hashtags.list ++ [⟨s.counters.hashtags + 1, name, time⟩] ∧
      (∀ tag ∈ s.hashtags.list, tag.name ≠ name) ∧
      s' = { s with hashtags, counters.hashtags := s.counters.hashtags + 1 } := by
  simp only [addTag, bind_eq_ok_iff, during_eq_ok_iff] at h
  obtain ⟨added, hadded, h⟩ := h
  rcases of_ignoring hadded with rfl | ⟨⟨id, s₁⟩, hinsert, rfl⟩
  · simp only [pure_eq_ok_iff, Prod.mk.injEq] at h
    exact .inl h.2.symm
  · simp only [pure_eq_ok_iff, Prod.mk.injEq] at h
    obtain ⟨-, rfl⟩ := h
    exact .inr ⟨stamp now, of_insertTag hinsert⟩

theorem of_linkTag {tweet tag : Int} {u : Unit} (h : s.linkTag tweet tag = .ok (u, s')) :
    s' = s ∨ ∃ l tagLinks, l.tweetId = tweet ∧ l.tagId = tag ∧ s.tweets.has tweet = true ∧
      s.hashtags.has tag = true ∧ tagLinks.list = s.tagLinks.list ++ [l] ∧
      s' = { s with tagLinks } := by
  simp only [linkTag, bind_eq_ok_iff, during_eq_ok_iff, pure_eq_ok_iff, Prod.mk.injEq] at h
  obtain ⟨added, hadded, -, rfl⟩ := h
  rcases of_ignoring hadded with rfl | ⟨⟨serial, s₁⟩, hinsert, rfl⟩
  · exact .inl rfl
  · simp only [insertTagLink, bind_eq_ok_iff, need_eq_ok_iff, demand_eq_ok_iff, pure_eq_ok_iff,
      named_eq_ok_iff, Option.some.injEq, exists_eq_left', Cell.int.injEq, Prod.mk.injEq]
      at hinsert
    obtain ⟨-, -, serial, -, tagLinks, hadd, -, ⟨htweet, htag⟩, -, rfl⟩ := hinsert
    exact .inr ⟨_, tagLinks, rfl, rfl, htweet, htag, (Rows.of_addRow hadd).1, rfl⟩

end Store

end Microblog
