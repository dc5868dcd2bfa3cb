import Microblog.Proofs.Social.Accounting

/-!
# How often somebody is told of a like or of a follow

Whoever wrote a tweet is told of a like when it is new, and an account of a new follower.  But a
like that was taken back is new again when it is given again: nothing looks for a notification that
was sent before.  So somebody can be told once more for each time that a like or a follow was taken
back, and no more often than that (`Social.run_tells`).

A like and a follow are treated alike, as a `Bond`.  The induction over a run counts the
notifications of a bond against how often it was taken back, and one more while it stands
(`Bond.tells_perform`).
-/

set_option autoImplicit false

namespace Microblog

/-- What somebody has with a tweet or with somebody else until it is taken back. -/
inductive Bond where
  | like (user tweet : Int)
  | follow (follower target : Int)
deriving DecidableEq, Repr

namespace Bond

/-- Whether there is the like, or the follow. -/
def holds : Bond → Store → Bool
  | like user tweet, s => s.likes.has (user, tweet)
  | follow follower target, s => s.follows.has (follower, target)

/-- Whether a notification tells of the bond: of a like by its actor and its tweet, and of a follow
by its actor and its recipient. -/
def isTold : Bond → StoredNotification → Bool
  | like user tweet, m =>
    m.kind = NotificationKind.like.name ∧ m.actorId = user ∧ m.tweetId = some tweet
  | follow follower target, m =>
    m.kind = NotificationKind.follow.name ∧ m.actorId = follower ∧ m.recipientId = target

/-- The number of stored notifications that tell of the bond. -/
def notices (b : Bond) (s : Store) : Nat := s.notifications.list.countP b.isTold

/-- Whether an operation asks to take the bond back. -/
def isUndone : Bond → Operation → Bool
  | like user tweet, .unlike u t => u = user ∧ t = tweet
  | follow follower target, .unfollow f t => f = follower ∧ t = target
  | _, _ => false

/-- How often the bond is taken back in a run, not counting where there is nothing to take back. -/
def timesUndone (b : Bond) : Social → List Operation → Nat
  | _, [] => 0
  | s, op :: ops =>
    (b.isUndone op && b.holds s.store).toNat + timesUndone b (s.perform op) ops

/-- A like whose tweet is not stored can never be given again. -/
def IsGone : Bond → Store → Prop
  | like _ tweet, s => s.tweets.has tweet = false
  | follow .., _ => False

end Bond

/-! ## What an operation takes away -/

/-- Likes stay unless their tweet is gone, and follows stay. -/
structure Store.BondsStay (s s' : Store) : Prop where
  likes : ∀ k, s.likes.has k = true → s'.likes.has k = true ∨ s'.tweets.has k.2 = false
  follows : ∀ k, s.follows.has k = true → s'.follows.has k = true

namespace Store.BondsStay

variable {s s' : Store}

theorem of_eq (hlikes : s'.likes = s.likes) (hfollows : s'.follows = s.follows) :
    s.BondsStay s' :=
  ⟨fun _ hk ↦ .inl (hlikes ▸ hk), fun _ hk ↦ hfollows ▸ hk⟩

/-- A like goes away only together with its tweet. -/
theorem of_without {D : List Int} (hlikes : s'.likes = (s.withoutTweets D).likes)
    (hfollows : s'.follows = s.follows)
    (htweets : ∀ id, s'.tweets.has id = (s.withoutTweets D).tweets.has id) : s.BondsStay s' := by
  refine ⟨fun k hk ↦ ?_, fun _ hk ↦ hfollows ▸ hk⟩
  by_cases hdoomed : k.2 ∈ D
  · refine .inr ?_
    rw [htweets, Bool.eq_false_iff, ne_eq, Rows.has_iff]
    rintro ⟨t, ht, hkey⟩
    have hleft := (Rows.mem_keep.1 ht).2
    have hid : t.id = k.2 := hkey
    simp [hid, hdoomed] at hleft
  · refine .inl (hlikes ▸ Rows.has_keep hk fun l hkey ↦ ?_)
    have hid : l.tweetId = k.2 := congrArg Prod.snd hkey
    simpa [hid] using hdoomed

theorem of_deleteTweet {id user : Int} {b : Bool} (h : s.deleteTweet id user = .ok (b, s')) :
    s.BondsStay s' := by
  rcases Store.of_deleteTweet h with ⟨-, rfl⟩ | ⟨-, t, -, -, -, D, -, rfl⟩
  · exact of_eq rfl rfl
  · cases t.parentId with
    | none => exact of_without rfl rfl fun _ ↦ rfl
    | some p => exact of_without rfl rfl fun _ ↦ Store.has_changeReplies _ _ _

theorem of_deleteRetweet {user target : Int} {b : Bool}
    (h : s.deleteRetweet user target = .ok (b, s')) : s.BondsStay s' := by
  rcases Store.of_deleteRetweet h with ⟨-, rfl⟩ | ⟨-, _, -, -, -, D, -, rfl⟩
  · exact of_eq rfl rfl
  · exact of_without rfl rfl fun _ ↦ Store.has_changeRetweets _ _ _

end Store.BondsStay

namespace Bond

variable {s : Social} {b : Bond}

theorem holds_or_gone {s s' : Store} (h : s.BondsStay s') (hb : b.holds s = true) :
    b.holds s' = true ∨ b.IsGone s' := by
  cases b with
  | like user tweet => exact h.likes _ hb
  | follow follower target => exact .inl (h.follows _ hb)

/-! ## Operations -/

section Operations

variable (h : s.store.Orderly)

include h

/-- To take a like back takes no other like away. -/
theorem stays_unlike (user tweet : Int) (hb : b.holds s.store = true) :
    b.holds (s.perform (.unlike user tweet)).store = true ∨
      b.isUndone (.unlike user tweet) = true := by
  rcases Action.Ends.unlike h user tweet with ⟨f, -, hafter, -⟩ | ⟨_, -, c, store, hrun, hafter⟩
  · exact .inl (by rw [show s.perform (.unlike user tweet) = s from hafter]; exact hb)
  have hstore : (s.perform (.unlike user tweet)).store = store := congrArg Social.store hafter
  rw [hstore]
  rcases Store.of_unlike hrun with ⟨-, rfl⟩ | ⟨-, _, -, -, -, rfl⟩
  · exact .inl hb
  cases b with
  | follow follower target => exact .inl hb
  | like u t =>
    by_cases hsame : user = u ∧ tweet = t
    · exact .inr (decide_eq_true hsame)
    · refine .inl (Rows.has_keep hb fun l hkey ↦ ?_)
      obtain ⟨rfl, rfl⟩ := Prod.mk.inj hkey
      have hother : ¬(l.userId = user ∧ l.tweetId = tweet) :=
        fun ⟨huser, htweet⟩ ↦ hsame ⟨huser.symm, htweet.symm⟩
      rw [decide_eq_false hother, Bool.not_false]

/-- To take a follow back takes no other follow away. -/
theorem stays_unfollow (follower target : Int) (hb : b.holds s.store = true) :
    b.holds (s.perform (.unfollow follower target)).store = true ∨
      b.isUndone (.unfollow follower target) = true := by
  rcases Action.Ends.unfollow h follower target with
    ⟨f, -, hafter, -⟩ | ⟨_, -, c, store, hrun, hafter⟩
  · exact .inl (by rw [show s.perform (.unfollow follower target) = s from hafter]; exact hb)
  have hstore : (s.perform (.unfollow follower target)).store = store :=
    congrArg Social.store hafter
  rw [hstore]
  rcases Store.of_unfollow hrun with ⟨-, rfl⟩ | ⟨-, _, -, -, -, rfl⟩
  · exact .inl hb
  cases b with
  | like user tweet => exact .inl hb
  | follow f t =>
    by_cases hsame : follower = f ∧ target = t
    · exact .inr (decide_eq_true hsame)
    · refine .inl (Rows.has_keep hb fun g hkey ↦ ?_)
      obtain ⟨rfl, rfl⟩ := Prod.mk.inj hkey
      have hother : ¬(g.followerId = follower ∧ g.followingId = target) :=
        fun ⟨hfollower, htarget⟩ ↦ hsame ⟨hfollower.symm, htarget.symm⟩
      rw [decide_eq_false hother, Bool.not_false]

omit h in
theorem bondsStay_of_unchanged {s' : Social} (hsame : s' = s) : s.store.BondsStay s'.store :=
  hsame ▸ .of_eq rfl rfl

omit h in
/-- One statement is all that was carried out. -/
theorem bondsStay_of_after {s' : Social} {store : Store} (hafter : s' = { s with store })
    (hstay : s.store.BondsStay store) : s.store.BondsStay s'.store :=
  hafter ▸ hstay

theorem bondsStay_like (user tweet : Int) :
    s.store.BondsStay (s.perform (.like user tweet)).store := by
  rcases Action.Ends.like h user tweet with ⟨f, -, hafter, -⟩ |
    ⟨_, -, row, added, store, -, hrun, htold⟩
  · exact bondsStay_of_unchanged hafter
  rcases Store.of_like hrun with ⟨rfl, rfl⟩ | ⟨rfl, l, likes, -, -, -, -, hlist, rfl⟩
  · exact bondsStay_of_unchanged htold
  · have htold : Social.Told _ _ (s.perform (.like user tweet)) := htold
    constructor
    · intro k hk
      rw [htold.likes]
      exact .inl (Rows.has_of_append hlist hk)
    · intro k hk
      rw [htold.follows]
      exact hk

theorem bondsStay_follow (follower target : Int) :
    s.store.BondsStay (s.perform (.follow follower target)).store := by
  rcases Action.Ends.follow h follower target with ⟨f, -, hafter, -⟩ |
    ⟨added, -, store, hrun, htold⟩
  · exact bondsStay_of_unchanged hafter
  rcases Store.of_follow hrun with ⟨rfl, rfl⟩ | ⟨rfl, f, follows, -, -, -, -, -, hlist, rfl⟩
  · exact bondsStay_of_unchanged htold
  · have htold : Social.Told _ _ (s.perform (.follow follower target)) := htold
    constructor
    · intro k hk
      rw [htold.likes]
      exact .inl hk
    · intro k hk
      rw [htold.follows]
      exact Rows.has_of_append hlist hk

theorem bondsStay_createTweet (user : Int) (content : Option String) (parent : Option Int) :
    s.store.BondsStay (s.perform (.createTweet user content parent)).store := by
  rcases Action.Ends.createTweet h user content parent with ⟨f, -, hafter, -⟩ |
    ⟨i, -, text, t, store, s₁, -, hrun, -, htold, -, hafter⟩
  · exact bondsStay_of_unchanged hafter
  -- recording hashtags leaves likes and follows alone, and so does telling somebody
  have htags : ((s.perform (.createTweet user content parent)).store.likes,
      (s.perform (.createTweet user content parent)).store.follows) =
      (s₁.store.likes, s₁.store.follows) := by
    rw [show s.perform (.createTweet user content parent) = _ from hafter]
    refine Action.part_after_recordTags (fun s ↦ (s.likes, s.follows)) ?_ ?_ _ _ _
    · intro now name s u s' hrun
      rcases Store.of_addTag hrun with rfl | ⟨_, _, -, -, -, rfl⟩ <;> rfl
    · intro tweet tag s u s' hrun
      rcases Store.of_linkTag hrun with rfl | ⟨_, _, -, -, -, -, -, rfl⟩ <;> rfl
  obtain ⟨hlikes, hfollows⟩ := Prod.mk.inj htags
  obtain ⟨tweets, -, hstore⟩ := Store.of_createTweet hrun
  cases parent with
  | none =>
    obtain rfl : s₁ = { s with store } := htold
    subst hstore
    exact .of_eq hlikes hfollows
  | some p =>
    obtain ⟨row, -, htold⟩ := htold
    subst hstore
    exact .of_eq (hlikes.trans htold.likes) (hfollows.trans htold.follows)

theorem bondsStay_deleteTweet (user tweet : Int) :
    s.store.BondsStay (s.perform (.deleteTweet user tweet)).store := by
  rcases Action.Ends.deleteTweet h user tweet with ⟨f, -, hafter, -⟩ |
    ⟨_, -, row, c, store, -, -, hrun, hafter⟩
  · exact bondsStay_of_unchanged hafter
  · refine bondsStay_of_after hafter ?_
    split at hrun
    · exact .of_deleteRetweet hrun
    · exact .of_deleteTweet hrun

theorem bondsStay_retweet (user tweet : Int) :
    s.store.BondsStay (s.perform (.retweet user tweet)).store := by
  rcases Action.Ends.retweet h user tweet with ⟨f, -, hafter, -⟩ |
    ⟨i, -, row, t, store, -, hrun, -, htold⟩
  · exact bondsStay_of_unchanged hafter
  · rcases Store.of_createRetweet hrun with rfl | ⟨tweets, -, rfl⟩ <;>
      exact .of_eq htold.likes htold.follows

theorem bondsStay_undoRetweet (user tweet : Int) :
    s.store.BondsStay (s.perform (.undoRetweet user tweet)).store := by
  rcases Action.Ends.undoRetweet h user tweet with ⟨f, -, hafter, -⟩ |
    ⟨_, -, row, c, store, -, hrun, hafter⟩
  · exact bondsStay_of_unchanged hafter
  · exact bondsStay_of_after hafter (.of_deleteRetweet hrun)

theorem bondsStay_updateProfile (user : Int) (displayName bio : Option String) :
    s.store.BondsStay (s.perform (.updateProfile user displayName bio)).store := by
  rcases Action.Ends.updateProfile h user displayName bio with ⟨f, -, hafter, -⟩ |
    ⟨_, -, u, c, store, -, hrun, hafter⟩
  · exact bondsStay_of_unchanged hafter
  · refine bondsStay_of_after hafter ?_
    rcases Store.of_writeProfile hrun with ⟨-, rfl⟩ | ⟨-, _, rfl⟩ <;> exact .of_eq rfl rfl

omit h in
theorem bondsStay_createUser (new : NewUser) :
    s.store.BondsStay (s.perform (.createUser new)).store := by
  rcases Action.change_error_or_ok s fun now ↦ Store.createUser now new with
    ⟨_, -, hafter⟩ | ⟨_, store, hrun, -, hafter⟩
  · exact bondsStay_of_unchanged hafter
  · refine bondsStay_of_after hafter ?_
    obtain ⟨_, _, -, -, rfl⟩ := Store.of_createUser hrun
    exact .of_eq rfl rfl

theorem bondsStay_markRead (user : Int) :
    s.store.BondsStay (s.perform (.markRead user)).store := by
  obtain ⟨n, -, -, hafter⟩ := Social.answers_markRead h user
  exact bondsStay_of_after hafter (.of_eq rfl rfl)

/-- **A bond stays until it is taken back**, or its tweet is gone. -/
theorem stays_perform (op : Operation) (hb : b.holds s.store = true) :
    b.holds (s.perform op).store = true ∨ b.isUndone op = true ∨ b.IsGone (s.perform op).store := by
  have hstays (hstay : s.store.BondsStay (s.perform op).store) :
      b.holds (s.perform op).store = true ∨ b.isUndone op = true ∨
        b.IsGone (s.perform op).store := (holds_or_gone hstay hb).imp_right .inr
  have hsame (hstore : (s.perform op).store = s.store) :=
    hstays (.of_eq (congrArg Store.likes hstore) (congrArg Store.follows hstore))
  cases op with
  | unlike user tweet => exact (stays_unlike h user tweet hb).imp_right .inl
  | unfollow follower target => exact (stays_unfollow h follower target hb).imp_right .inl
  | like user tweet => exact hstays (bondsStay_like h user tweet)
  | follow follower target => exact hstays (bondsStay_follow h follower target)
  | createTweet user content parent => exact hstays (bondsStay_createTweet h user content parent)
  | deleteTweet user tweet => exact hstays (bondsStay_deleteTweet h user tweet)
  | retweet user tweet => exact hstays (bondsStay_retweet h user tweet)
  | undoRetweet user tweet => exact hstays (bondsStay_undoRetweet h user tweet)
  | updateProfile user name bio => exact hstays (bondsStay_updateProfile h user name bio)
  | createUser new => exact hstays (bondsStay_createUser new)
  | markRead user => exact hstays (bondsStay_markRead h user)
  | globalFeed page viewer => exact hsame ((Action.Keeps.globalFeed page viewer).store s)
  | trending limit => exact hsame ((Action.Keeps.trending limit).store s)
  | subscribe | receive | unsubscribe | drop | advance => exact hsame rfl
  | _ => exact hsame (congrArg Social.store (Social.perform_of_looks rfl s))

end Operations

/-! ## Counting -/

/-- What becomes of the notifications of a bond is told by its kind, its actor and its tweet or
recipient, and none of these changes by a mark. -/
theorem isTold_marks (op : Operation) (m : StoredNotification) :
    b.isTold (op.marks m) = b.isTold m := by
  rcases op.marks_cases m with h | h <;> rw [h]
  cases b <;> rfl

/-- **Somebody is told of a bond only when it is new.** -/
theorem of_isTold_notice {op : Operation} {new : NewNotification} {time : String}
    (hnotice : s.notice op = some new)
    (htold : b.isTold (s.store.newNotification new time) = true) :
    b.holds s.store = false ∧ b.holds (s.perform op).store = true := by
  cases op with
  | createTweet user content parent =>
    cases parent with
    | none => cases hnotice
    | some p =>
      simp only [Social.notice, Option.bind_eq_bind, Option.bind_eq_some_iff] at hnotice
      obtain ⟨i, -, row, -, hnew⟩ := hnotice
      obtain rfl := Option.some.inj hnew
      cases b <;> simp [isTold, Store.newNotification, NotificationKind.name] at htold
  | like user tweet =>
    simp only [Social.notice, Option.bind_eq_bind, Option.bind_eq_some_iff] at hnotice
    obtain ⟨row, -, hnew⟩ := hnotice
    split at hnew
    · rename_i hbrings
      obtain rfl := Option.some.inj hnew
      cases b with
      | like u t =>
        simp only [isTold, Store.newNotification, Option.some.injEq, decide_eq_true_eq] at htold
        obtain ⟨-, rfl, rfl⟩ := htold
        simpa [Social.brings, holds] using hbrings
      | follow => simp [isTold, Store.newNotification, NotificationKind.name] at htold
    · cases hnew
  | retweet user tweet =>
    simp only [Social.notice, Option.bind_eq_bind, Option.bind_eq_some_iff] at hnotice
    obtain ⟨i, -, row, -, hnew⟩ := hnotice
    obtain rfl := Option.some.inj hnew
    cases b <;> simp [isTold, Store.newNotification, NotificationKind.name] at htold
  | follow follower target =>
    simp only [Social.notice] at hnotice
    split at hnotice
    · rename_i hbrings
      obtain rfl := Option.some.inj hnotice
      cases b with
      | like => simp [isTold, Store.newNotification, NotificationKind.name] at htold
      | follow f t =>
        simp only [isTold, Store.newNotification, decide_eq_true_eq] at htold
        obtain ⟨-, rfl, rfl⟩ := htold
        simpa [Social.brings, holds] using hbrings
    · cases hnotice
  | _ => cases hnotice

/-- No notification of a bond outlives its tweet. -/
theorem countP_noticesLeft_of_gone {s s' : Store} (h : b.IsGone s') :
    (s.noticesLeft s').countP b.isTold = 0 := by
  refine List.countP_eq_zero.2 fun m hm htold ↦ ?_
  have hleft := (List.mem_filter.1 hm).2
  cases b with
  | follow => exact h
  | like user tweet =>
    obtain ⟨-, -, htweet⟩ := of_decide_eq_true htold
    rw [htweet, Option.all_some] at hleft
    exact Bool.false_ne_true (h.symm.trans hleft)

section Counting

variable (h : s.store.Orderly) (hn : s.store.Noticed)

include h hn

/-- An operation adds one notification of a bond when it makes the bond, and else none. -/
theorem notices_perform (op : Operation) : b.notices (s.perform op).store =
      (s.store.noticesLeft (s.perform op).store).countP b.isTold ∨
    b.holds s.store = false ∧ b.holds (s.perform op).store = true ∧
      b.notices (s.perform op).store =
        (s.store.noticesLeft (s.perform op).store).countP b.isTold + 1 := by
  obtain ⟨time, hrows⟩ := Social.rows_perform h hn op
  have hmarks : b.isTold ∘ op.marks = b.isTold := funext fun m ↦ isTold_marks op m
  rw [notices, hrows, List.countP_append, List.countP_map, hmarks]
  cases hnew : (s.notice op).filter s.store.admits with
  | none => exact .inl rfl
  | some new =>
    have hnotice : s.notice op = some new := (Option.filter_eq_some_iff.1 hnew).1
    by_cases htold : b.isTold (s.store.newNotification new time) = true
    · obtain ⟨hbefore, hafter⟩ := of_isTold_notice hnotice htold
      exact .inr ⟨hbefore, hafter, by simp [htold]⟩
    · exact .inl (by simp [htold])

/-- **One operation**: what the notifications of a bond are counted against grows with them. -/
theorem tells_perform (op : Operation) {n : Nat}
    (hcount : b.notices s.store ≤ n + (b.holds s.store).toNat) :
    b.notices (s.perform op).store ≤ n + (b.isUndone op && b.holds s.store).toNat +
      (b.holds (s.perform op).store).toNat := by
  have hleft : (s.store.noticesLeft (s.perform op).store).countP b.isTold ≤ b.notices s.store :=
    List.filter_sublist.countP_le
  rcases notices_perform (b := b) h hn op with hnotices | ⟨hbefore, hafter, hnotices⟩
  · rw [hnotices]
    cases hb : b.holds s.store with
    | false => exact hleft.trans (hcount.trans (by simp [hb]))
    | true =>
      rcases stays_perform h op hb with hstays | hundone | hgone
      · exact hleft.trans (hcount.trans (by simp [hb, hstays]))
      · exact hleft.trans (hcount.trans (by simp [hb, hundone]))
      · rw [countP_noticesLeft_of_gone hgone]
        exact Nat.zero_le _
  · simp only [hbefore, hafter, hnotices, Bool.and_false, Bool.toNat_false, Bool.toNat_true,
      Nat.add_zero] at hcount ⊢
    omega

end Counting

/-- **A run**: the same, operation by operation. -/
theorem tells_run {s : Social} (h : s.store.Orderly) (hn : s.store.Noticed)
    (ops : List Operation) {n : Nat}
    (hcount : b.notices s.store ≤ n + (b.holds s.store).toNat) :
    b.notices (s.run ops).store ≤ n + b.timesUndone s ops + (b.holds (s.run ops).store).toNat := by
  induction ops generalizing s n with
  | nil => exact hcount
  | cons op ops ih =>
    have hstep := tells_perform h hn op hcount
    have hrest := ih (Social.orderly_perform h op) (Social.noticed_perform h hn op) hstep
    rw [timesUndone, ← Nat.add_assoc]
    exact hrest

end Bond

namespace Social

/-- **Somebody is told of a like or of a follow at most once, and once more for each time that it
was taken back.** -/
theorem run_tells (capacity : Nat) (cached : Bool) (lifetimes : Lifetimes) (ops : List Operation)
    (b : Bond) : b.notices ((start capacity cached lifetimes).run ops).store ≤
      b.timesUndone (start capacity cached lifetimes) ops +
        (b.holds ((start capacity cached lifetimes).run ops).store).toNat := by
  have h := Bond.tells_run (b := b) (s := start capacity cached lifetimes) orderly_migrated
    noticed_migrated ops (n := 0) (Nat.zero_le _)
  rwa [Nat.zero_add] at h

/-- Bob likes ada's tweet and follows ada, takes both back, and does both again. -/
def secondThoughts : List Operation :=
  [.createUser { username := "ada", email := "ada@x.org" },
    .createUser { username := "bob", email := "bob@x.org" }, .createTweet 1 (some "hi") none,
    .like 2 1, .unlike 2 1, .like 2 1, .follow 2 1, .unfollow 2 1, .follow 2 1]

/-- Ada is told twice that bob likes her tweet, and twice that he follows her. -/
theorem told_twice :
    (Bond.like 2 1).notices ((start 1 true ⟨0, 0⟩).run secondThoughts).store = 2 ∧
    (Bond.follow 2 1).notices ((start 1 true ⟨0, 0⟩).run secondThoughts).store = 2 := by
  decide +kernel

end Social

end Microblog
