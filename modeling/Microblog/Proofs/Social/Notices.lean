import Microblog.Proofs.Social.Atomic

/-!
# Whom an operation tells of what

`Social.notice` says what somebody is to be told of an operation: whoever wrote a tweet is told of
an answer to it, of a new like and of a retweet, and an account of a new follower.  An operation
does so and tells nobody else: the notifications after it are those before it, without those whose
tweet is gone, and one for what is to be told (`Social.Gains`, `Social.gains_perform`).

Nobody is told of what they did themselves.  That is not part of what is to be told, but of whether
anybody is told at all (`Store.admits`), as it is in the application.
-/

set_option autoImplicit false

namespace Microblog

open Text

namespace Store

/-- Every notification names a stored tweet or none, tells somebody of what somebody else did, and
is marked as read or as unread. -/
structure Noticed (s : Store) : Prop where
  named : ∀ m ∈ s.notifications.list, m.tweetId.all s.tweets.has = true
  other : ∀ m ∈ s.notifications.list, m.recipientId ≠ m.actorId
  marked : ∀ m ∈ s.notifications.list, m.isRead = .int 0 ∨ m.isRead = .int 1

/-- Whether somebody is told at all: not of what they did themselves, and not when all numbers of
notifications are given. -/
def admits (s : Store) (new : NewNotification) : Bool :=
  s.counters.notifications < Decimal.greatest ∧ new.recipientId ≠ new.actorId

/-- The notifications that are left when tweets are gone: those that name no tweet or one that is
stored in `s'`. -/
def noticesLeft (s s' : Store) : List StoredNotification :=
  s.notifications.list.filter fun m ↦ m.tweetId.all s'.tweets.has

variable {s s' : Store}

theorem noticesLeft_of_has (h : s.Noticed)
    (hkept : ∀ id, s.tweets.has id = true → s'.tweets.has id = true) :
    s.noticesLeft s' = s.notifications.list := by
  refine List.filter_eq_self.2 fun m hm ↦ ?_
  have hnamed := h.named m hm
  rw [Option.all_eq_true] at hnamed ⊢
  exact fun id hid ↦ hkept id (hnamed id hid)

/-- A deleted tweet takes along the notifications that name it, and only those. -/
theorem noticesLeft_without (h : s.Noticed) {D : List Int}
    (hnotices : s'.notifications = (s.withoutTweets D).notifications)
    (htweets : ∀ id, s'.tweets.has id = (s.withoutTweets D).tweets.has id) :
    s.noticesLeft s' = s'.notifications.list := by
  rw [hnotices]
  refine List.filter_congr fun m hm ↦ ?_
  have hnamed := h.named m hm
  cases hid : m.tweetId with
  | none => rfl
  | some id =>
    rw [hid, Option.all_some] at hnamed
    obtain ⟨t, ht, hkey⟩ := Rows.has_iff.1 hnamed
    rw [Option.all_some, Option.any_some, htweets, Bool.eq_iff_iff, Rows.has_iff]
    constructor
    · rintro ⟨u, hu, rfl⟩
      exact (Rows.mem_keep.1 hu).2
    · intro hleft
      have hkey : t.id = id := hkey
      exact ⟨t, Rows.mem_keep.2 ⟨ht, by rw [hkey]; exact hleft⟩, hkey⟩

end Store

/-- What an operation does to a notification that stays: one marks those of a user as read. -/
def Operation.marks : Operation → StoredNotification → StoredNotification
  | .markRead user, m => if m.recipientId = user then { m with isRead := .int 1 } else m
  | _, m => m

/-- To mark what was marked as read changes nothing, so that all of a user's may be marked. -/
theorem StoredNotification.markedBy_eq_marks {m : StoredNotification}
    (h : m.isRead = .int 0 ∨ m.isRead = .int 1) (user : Int) :
    m.markedBy user = (Operation.markRead user).marks m := by
  rw [markedBy, isUnreadBy, Operation.marks]
  by_cases huser : m.recipientId = user
  · rcases h with hnew | hread
    · rw [if_pos (by simp [huser, hnew]), if_pos huser]
    · rw [if_neg (by simp [hread]), if_pos huser, ← hread]
  · rw [if_neg (by simp [huser]), if_neg huser]

namespace Social

/-! ## What is to be told -/

/-- Whether an operation brings about what was not so. -/
def brings (s : Social) (op : Operation) (p : Store → Bool) : Bool :=
  !p s.store && p (s.perform op).store

/-- What somebody is to be told of an operation: whoever wrote a tweet is told of an answer, of a
new like, and of a retweet, of which also a retweet of a record is one, and an account is told of a
new follower. -/
def notice (s : Social) : Operation → Option NewNotification
  | .createTweet user content (some parent) => do
    let item ← ((Action.createTweet user content (some parent)).answer s).toOption
    let answered ← s.store.tweets.get? parent
    return ⟨answered.userId, user, some item.tweet.id, .reply⟩
  | .like user tweet => do
    let liked ← s.store.tweets.get? tweet
    if s.brings (.like user tweet) fun store ↦ store.likes.has (user, tweet) then
      return ⟨liked.userId, user, some tweet, .like⟩
    else none
  | .retweet user tweet => do
    let _ ← ((Action.retweet user tweet).answer s).toOption
    let original ← s.store.original? tweet
    return ⟨original.userId, user, some original.id, .retweet⟩
  | .follow follower target =>
    if s.brings (.follow follower target) fun store ↦ store.follows.has (follower, target) then
      some ⟨target, follower, none, .follow⟩
    else none
  | _ => none

/-! ## Steps -/

/-- From `s` to `s'` notifications went away with their tweets, and what was to be told was added.
-/
structure Gains (s s' : Social) (told : Option NewNotification) : Prop where
  rows : ∃ time, s'.store.notifications.list = s.store.noticesLeft s'.store ++
    (told.filter s.store.admits).toList.map (s.store.newNotification · time)
  counter : s'.store.counters.notifications = s.store.counters.notifications +
    (told.filter s.store.admits).toList.length
  /-- The tweet that is named is stored. -/
  named : ∀ new ∈ told.filter s.store.admits, new.tweetId.all s'.store.tweets.has = true

namespace Gains

variable {s s₁ s' : Social} {new : NewNotification}

/-- Nobody was told, and no tweet is gone. -/
theorem silent (h : s.store.Noticed) {store : Store} (hstore : s'.store = store)
    (hnotices : store.notifications = s.store.notifications)
    (hcounter : store.counters.notifications = s.store.counters.notifications)
    (hkept : ∀ id, s.store.tweets.has id = true → store.tweets.has id = true) :
    s.Gains s' none where
  rows := ⟨"", by simp [hstore, Store.noticesLeft_of_has h hkept, hnotices]⟩
  counter := by simp [hstore, hcounter]
  named _ hnew := nomatch hnew

theorem of_store_eq (h : s.store.Noticed) (hstore : s'.store = s.store) : s.Gains s' none :=
  silent h hstore rfl rfl fun _ hid ↦ hid

/-- Nobody was told, and tweets are gone. -/
theorem without (h : s.store.Noticed) {D : List Int} {store : Store} (hstore : s'.store = store)
    (hnotices : store.notifications = (s.store.withoutTweets D).notifications)
    (hcounter : store.counters.notifications = s.store.counters.notifications)
    (htweets : ∀ id, store.tweets.has id = (s.store.withoutTweets D).tweets.has id) :
    s.Gains s' none where
  rows := ⟨"", by simp [hstore, Store.noticesLeft_without h hnotices htweets]⟩
  counter := by simp [hstore, hcounter]
  named _ hnew := nomatch hnew

/-- Somebody was told, after a statement that left the notifications and took no tweet out. -/
theorem of_told (h : s.store.Noticed) (htold : s₁.Told new s')
    (hnotices : s₁.store.notifications = s.store.notifications)
    (hcounter : s₁.store.counters.notifications = s.store.counters.notifications)
    (hkept : ∀ id, s.store.tweets.has id = true → s₁.store.tweets.has id = true) :
    s.Gains s' (some new) := by
  have hleft : s.store.noticesLeft s'.store = s₁.store.notifications.list := by
    rw [hnotices]
    exact Store.noticesLeft_of_has h fun id hid ↦ by rw [htold.tweets]; exact hkept id hid
  have hrow : ∀ time, s.store.newNotification new time = s₁.store.newNotification new time := by
    intro time
    rw [Store.newNotification, Store.newNotification, hcounter]
  cases htold with
  | own hown =>
    have hnone : (some new).filter s.store.admits = none := by
      simp [Option.filter, Store.admits, hown]
    exact ⟨⟨"", by simp [hleft, hnone]⟩, by simp [hcounter, hnone], by simp [hnone]⟩
  | full hfull =>
    rw [hcounter] at hfull
    have hnone : (some new).filter s.store.admits = none := by
      simp [Option.filter, Store.admits, hfull]
    exact ⟨⟨"", by simp [hleft, hnone]⟩, by simp [hcounter, hnone], by simp [hnone]⟩
  | @added time notifications n other room named list read =>
    rw [hcounter] at room
    have hsome : (some new).filter s.store.admits = some new := by
      simp [Option.filter, Store.admits, room, other]
    refine ⟨⟨time, by simp [hleft, hsome, list, hrow]⟩, by simp [hcounter, hsome], ?_⟩
    rw [hsome]
    rintro _ ⟨⟩
    exact named

/-- What comes afterwards leaves the notifications and the tweets. -/
theorem after {told : Option NewNotification} (h : s.Gains s₁ told)
    (htweets : s'.store.tweets = s₁.store.tweets)
    (hnotices : s'.store.notifications = s₁.store.notifications)
    (hcounter : s'.store.counters.notifications = s₁.store.counters.notifications) :
    s.Gains s' told where
  rows := by
    obtain ⟨time, hrows⟩ := h.rows
    exact ⟨time, by rw [hnotices, hrows, Store.noticesLeft, Store.noticesLeft, htweets]⟩
  counter := hcounter.trans h.counter
  named := by rw [htweets]; exact h.named

end Gains

/-! ## Operations -/

section Operations

variable {s : Social}

theorem not_brings_of_eq {op : Operation} (hsame : s.perform op = s) (p : Store → Bool) :
    s.brings op p = false := by
  rw [brings, hsame]
  cases p s.store <;> rfl

theorem gains_of_unchanged (hn : s.store.Noticed) {op : Operation} (hsame : s.perform op = s)
    (hnotice : s.notice op = none) : s.Gains (s.perform op) (s.notice op) := by
  rw [hnotice]
  exact .of_store_eq hn (congrArg Social.store hsame)

theorem gains_delete (hn : s.store.Noticed) {id user : Int} {b : Bool} {store : Store}
    {s' : Social} (hrun : s.store.deleteTweet id user = .ok (b, store)) (hs' : s'.store = store) :
    s.Gains s' none := by
  rcases Store.of_deleteTweet hrun with ⟨-, rfl⟩ | ⟨-, t, -, -, -, D, -, rfl⟩
  · exact .of_store_eq hn hs'
  · cases hparent : t.parentId with
    | none =>
      rw [hparent] at hs'
      exact .without hn hs' rfl rfl fun _ ↦ rfl
    | some p =>
      rw [hparent] at hs'
      exact .without hn hs' rfl rfl fun _ ↦ Store.has_changeReplies _ _ _

theorem gains_deleteRetweet (hn : s.store.Noticed) {user target : Int} {b : Bool} {store : Store}
    {s' : Social} (hrun : s.store.deleteRetweet user target = .ok (b, store))
    (hs' : s'.store = store) : s.Gains s' none := by
  rcases Store.of_deleteRetweet hrun with ⟨-, rfl⟩ | ⟨-, _, -, -, -, D, -, rfl⟩
  · exact .of_store_eq hn hs'
  · exact .without hn hs' rfl rfl fun _ ↦ Store.has_changeRetweets _ _ _

variable (h : s.store.Orderly) (hn : s.store.Noticed)

include h hn

theorem gains_createTweet (user : Int) (content : Option String) (parent : Option Int) :
    s.Gains (s.perform (.createTweet user content parent))
      (s.notice (.createTweet user content parent)) := by
  rcases Action.Ends.createTweet h user content parent with ⟨f, hanswer, hafter, -⟩ |
    ⟨i, hanswer, text, t, store, s₁, -, hrun, hid, htold, -, hafter⟩
  · refine gains_of_unchanged hn hafter ?_
    cases parent <;> simp [notice, hanswer, Except.toOption]
  · have hrest := Action.rest_after_recordTags t.id (hashtags text) s₁
    rw [← hafter] at hrest
    obtain ⟨tweets, hposted, hstore⟩ := Store.of_createTweet hrun
    obtain ⟨time, hlist⟩ := hposted.list
    refine Gains.after ?_ hrest.1 hrest.2.1 hrest.2.2
    cases parent with
    | none =>
      obtain rfl : s₁ = { s with store } := htold
      subst hstore
      exact .silent hn rfl rfl rfl fun id hid ↦ Rows.has_of_append hlist hid
    | some p =>
      obtain ⟨row, hget, htold⟩ := htold
      have hnotice : s.notice (.createTweet user content (some p)) =
          some ⟨row.userId, user, some t.id, .reply⟩ := by
        simp [notice, hanswer, Except.toOption, hget, hid]
      subst hstore
      rw [hnotice]
      exact .of_told hn htold rfl rfl fun id hid ↦
        (Store.has_changeReplies _ _ _).trans (Rows.has_of_append hlist hid)

theorem gains_deleteTweet (user tweet : Int) :
    s.Gains (s.perform (.deleteTweet user tweet)) none := by
  rcases Action.Ends.deleteTweet h user tweet with ⟨f, hanswer, hafter, -⟩ |
    ⟨_, -, row, b, store, -, -, hrun, hafter⟩
  · exact .of_store_eq hn (congrArg Social.store hafter)
  · have hstore : (s.perform (.deleteTweet user tweet)).store = store :=
      congrArg Social.store hafter
    split at hrun
    · exact gains_deleteRetweet hn hrun hstore
    · exact gains_delete hn hrun hstore

theorem gains_like (user tweet : Int) :
    s.Gains (s.perform (.like user tweet)) (s.notice (.like user tweet)) := by
  have hunchanged (hsame : s.perform (.like user tweet) = s) :
      s.Gains (s.perform (.like user tweet)) (s.notice (.like user tweet)) :=
    gains_of_unchanged hn hsame (by simp [notice, not_brings_of_eq hsame])
  rcases Action.Ends.like h user tweet with ⟨f, hanswer, hafter, -⟩ |
    ⟨_, -, row, added, store, hget, hrun, htold⟩
  · exact hunchanged hafter
  rcases Store.of_like hrun with ⟨rfl, rfl⟩ | ⟨rfl, l, likes, rfl, rfl, -, -, hlist, rfl⟩
  · exact hunchanged htold
  · have htold : Social.Told _ _ (s.perform (.like l.userId l.tweetId)) := htold
    have hbrings : s.brings (.like l.userId l.tweetId)
        (fun store ↦ store.likes.has (l.userId, l.tweetId)) = true := by
      obtain ⟨hbefore, hnow⟩ : s.store.likes.has (l.userId, l.tweetId) = false ∧
          likes.has (l.userId, l.tweetId) = true := Rows.has_new hlist
      rw [brings, htold.likes, hbefore]
      exact hnow
    have hnotice : s.notice (.like l.userId l.tweetId) =
        some ⟨row.userId, l.userId, some l.tweetId, .like⟩ := by
      simp [notice, hget, hbrings]
    rw [hnotice]
    exact .of_told hn htold rfl rfl fun id hid ↦ by simpa [Store.changeLikes] using hid

theorem gains_retweet (user tweet : Int) :
    s.Gains (s.perform (.retweet user tweet)) (s.notice (.retweet user tweet)) := by
  rcases Action.Ends.retweet h user tweet with ⟨f, hanswer, hafter, -⟩ |
    ⟨i, hanswer, row, t, store, horiginal, hrun, -, htold⟩
  · exact gains_of_unchanged hn hafter (by simp [notice, hanswer, Except.toOption])
  · have hnotice : s.notice (.retweet user tweet) =
        some ⟨row.userId, user, some row.id, .retweet⟩ := by
      simp [notice, hanswer, Except.toOption, horiginal]
    rw [hnotice]
    have hkept := fun id ↦ Store.has_of_createRetweet_of_has (k := id) hrun
    rcases Store.of_createRetweet hrun with rfl | ⟨tweets, -, rfl⟩
    · exact .of_told hn htold rfl rfl hkept
    · exact .of_told hn htold rfl rfl hkept

theorem gains_undoRetweet (user tweet : Int) :
    s.Gains (s.perform (.undoRetweet user tweet)) none := by
  rcases Action.Ends.undoRetweet h user tweet with ⟨f, hanswer, hafter, -⟩ |
    ⟨_, -, row, b, store, -, hrun, hafter⟩
  · exact .of_store_eq hn (congrArg Social.store hafter)
  · exact gains_deleteRetweet hn hrun (congrArg Social.store hafter)

theorem gains_follow (follower target : Int) :
    s.Gains (s.perform (.follow follower target)) (s.notice (.follow follower target)) := by
  have hunchanged (hsame : s.perform (.follow follower target) = s) :
      s.Gains (s.perform (.follow follower target)) (s.notice (.follow follower target)) :=
    gains_of_unchanged hn hsame (by simp [notice, not_brings_of_eq hsame])
  rcases Action.Ends.follow h follower target with ⟨f, hanswer, hafter, -⟩ |
    ⟨added, -, store, hrun, htold⟩
  · exact hunchanged hafter
  rcases Store.of_follow hrun with ⟨rfl, rfl⟩ |
    ⟨rfl, f, follows, rfl, rfl, -, -, -, hlist, rfl⟩
  · exact hunchanged htold
  · have htold : Social.Told _ _ (s.perform (.follow f.followerId f.followingId)) := htold
    have hbrings : s.brings (.follow f.followerId f.followingId)
        (fun store ↦ store.follows.has (f.followerId, f.followingId)) = true := by
      obtain ⟨hbefore, hnow⟩ : s.store.follows.has (f.followerId, f.followingId) = false ∧
          follows.has (f.followerId, f.followingId) = true := Rows.has_new hlist
      rw [brings, htold.follows, hbefore]
      exact hnow
    have hnotice : s.notice (.follow f.followerId f.followingId) =
        some ⟨f.followingId, f.followerId, none, .follow⟩ := by
      simp [notice, hbrings]
    rw [hnotice]
    exact .of_told hn htold rfl rfl fun _ hid ↦ hid

theorem gains_unlike (user tweet : Int) : s.Gains (s.perform (.unlike user tweet)) none := by
  rcases Action.Ends.unlike h user tweet with ⟨f, hanswer, hafter, -⟩ |
    ⟨_, -, b, store, hrun, hafter⟩
  · exact .of_store_eq hn (congrArg Social.store hafter)
  · have hstore : (s.perform (.unlike user tweet)).store = store := congrArg Social.store hafter
    rcases Store.of_unlike hrun with ⟨-, rfl⟩ | ⟨-, _, -, -, -, rfl⟩
    · exact .of_store_eq hn hstore
    · exact .silent hn hstore rfl rfl fun id hid ↦ by simpa [Store.changeLikes] using hid

theorem gains_unfollow (follower target : Int) :
    s.Gains (s.perform (.unfollow follower target)) none := by
  rcases Action.Ends.unfollow h follower target with ⟨f, hanswer, hafter, -⟩ |
    ⟨_, -, b, store, hrun, hafter⟩
  · exact .of_store_eq hn (congrArg Social.store hafter)
  · have hstore : (s.perform (.unfollow follower target)).store = store :=
      congrArg Social.store hafter
    rcases Store.of_unfollow hrun with ⟨-, rfl⟩ | ⟨-, _, -, -, -, rfl⟩
    · exact .of_store_eq hn hstore
    · exact .silent hn hstore rfl rfl fun _ hid ↦ hid

theorem gains_updateProfile (user : Int) (displayName bio : Option String) :
    s.Gains (s.perform (.updateProfile user displayName bio)) none := by
  rcases Action.Ends.updateProfile h user displayName bio with ⟨f, hanswer, hafter, -⟩ |
    ⟨_, -, u, b, store, -, hrun, hafter⟩
  · exact .of_store_eq hn (congrArg Social.store hafter)
  · have hstore : (s.perform (.updateProfile user displayName bio)).store = store :=
      congrArg Social.store hafter
    rcases Store.of_writeProfile hrun with ⟨-, rfl⟩ | ⟨-, _, rfl⟩
    · exact .of_store_eq hn hstore
    · exact .silent hn hstore rfl rfl fun _ hid ↦ hid

omit h in
theorem gains_createUser (new : NewUser) : s.Gains (s.perform (.createUser new)) none := by
  rcases Action.change_error_or_ok s fun now ↦ Store.createUser now new with
    ⟨_, -, hafter⟩ | ⟨_, store, hrun, -, hafter⟩
  · exact .of_store_eq hn (congrArg Social.store hafter)
  · have hstore : (s.perform (.createUser new)).store = store := congrArg Social.store hafter
    obtain ⟨_, _, -, -, rfl⟩ := Store.of_createUser hrun
    exact .silent hn hstore rfl rfl fun _ hid ↦ hid

/-- Every operation but one tells whom it has to tell, and nobody else, and leaves the marks. -/
theorem gains_perform (op : Operation) : (∃ user, op = .markRead user) ∨
    op.marks = id ∧ s.Gains (s.perform op) (s.notice op) := by
  have hlooked : op.looks = true → s.Gains (s.perform op) (s.notice op) := fun hlooks ↦ by
    refine gains_of_unchanged hn (perform_of_looks hlooks s) ?_
    cases op with
    | createTweet | like | retweet | follow => cases hlooks
    | _ => rfl
  cases op with
  | markRead user => exact .inl ⟨user, rfl⟩
  | createUser new => exact .inr ⟨rfl, gains_createUser hn new⟩
  | createTweet user content parent => exact .inr ⟨rfl, gains_createTweet h hn user content parent⟩
  | deleteTweet user tweet => exact .inr ⟨rfl, gains_deleteTweet h hn user tweet⟩
  | like user tweet => exact .inr ⟨rfl, gains_like h hn user tweet⟩
  | unlike user tweet => exact .inr ⟨rfl, gains_unlike h hn user tweet⟩
  | retweet user tweet => exact .inr ⟨rfl, gains_retweet h hn user tweet⟩
  | undoRetweet user tweet => exact .inr ⟨rfl, gains_undoRetweet h hn user tweet⟩
  | follow follower target => exact .inr ⟨rfl, gains_follow h hn follower target⟩
  | unfollow follower target => exact .inr ⟨rfl, gains_unfollow h hn follower target⟩
  | updateProfile user name bio => exact .inr ⟨rfl, gains_updateProfile h hn user name bio⟩
  | globalFeed page viewer =>
    exact .inr ⟨rfl, .of_store_eq hn ((Action.Keeps.globalFeed page viewer).store s)⟩
  | trending limit => exact .inr ⟨rfl, .of_store_eq hn ((Action.Keeps.trending limit).store s)⟩
  | subscribe | receive | unsubscribe | drop | advance => exact .inr ⟨rfl, .of_store_eq hn rfl⟩
  | _ => exact .inr ⟨rfl, hlooked rfl⟩

end Operations

end Social

end Microblog
