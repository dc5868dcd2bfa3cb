import Microblog.Proofs.Social.Outcome

/-!
# What the requests that write do

For every request that writes there is one theorem here, `Action.Ends.` and its name, and whoever
wants to know what a request does uses that theorem and does not open the request again.  It says
that the request fails and has changed nothing, or answers; and then which rows it has looked up,
which statement it has carried out on the store, and whom it has told.

`Social.Told` is all that telling somebody may come to: nobody is told of what they did themselves,
or that no number for a notification is left, and else the notification is stored and published.
-/

set_option autoImplicit false

namespace Microblog

open Text

/-- The tweet itself, or the one that it points at. -/
def Store.original? (tweet : Int) (s : Store) : Option StoredTweet :=
  (s.tweets.get? tweet).bind fun t ↦ t.retweetId.elim (some t) s.tweets.get?

theorem Store.of_original? {s : Store} {tweet : Int} {row : StoredTweet}
    (h : s.original? tweet = some row) : row ∈ s.tweets.list ∧ s.Resolved row.id := by
  obtain ⟨t, hget, horiginal⟩ := Option.bind_eq_some_iff.1 h
  have ht : t ∈ s.tweets.list := (Rows.get?_eq_some_iff.1 hget).1
  cases hretweet : t.retweetId with
  | none =>
    rw [hretweet] at horiginal
    obtain rfl := Option.some.inj horiginal
    exact ⟨ht, t, ht, .inl ⟨rfl, hretweet⟩⟩
  | some target =>
    rw [hretweet] at horiginal
    obtain ⟨hrow, rfl⟩ := Rows.get?_eq_some_iff.1 horiginal
    exact ⟨hrow, t, ht, .inr hretweet⟩

/-- What comes of telling somebody. -/
inductive Social.Told (new : NewNotification) (s : Social) : Social → Prop
  /-- Nobody is told of what they did themselves. -/
  | own (h : new.recipientId = new.actorId) : Told new s s
  /-- All numbers of notifications are given. -/
  | full (h : ¬s.store.counters.notifications < Decimal.greatest) : Told new s s
  /-- The notification is stored, and published as it is read. -/
  | added {time : String} {notifications : Rows StoredNotification} {n : Notification}
      (other : new.recipientId ≠ new.actorId)
      (room : s.store.counters.notifications < Decimal.greatest)
      (named : new.tweetId.all s.store.tweets.has = true)
      (list : notifications.list =
        s.store.notifications.list ++ [s.store.newNotification new time])
      (read : (s.store.newNotification new time).read = .ok n) :
      Told new s { s with
        store := { s.store with
          notifications
          counters.notifications := s.store.counters.notifications + 1 }
        broker := (s.broker.publish new.recipientId n).2 }

section Told

variable {new : NewNotification} {s s' : Social}

/-! Telling somebody leaves all else as it is. -/

theorem Social.Told.tweets (h : s.Told new s') : s'.store.tweets = s.store.tweets := by
  cases h <;> rfl

theorem Social.Told.likes (h : s.Told new s') : s'.store.likes = s.store.likes := by
  cases h <;> rfl

theorem Social.Told.follows (h : s.Told new s') : s'.store.follows = s.store.follows := by
  cases h <;> rfl

theorem Social.Told.counter (h : s.Told new s') :
    s'.store.counters.tweets = s.store.counters.tweets := by
  cases h <;> rfl

end Told

namespace Action

variable {α : Type} {s : Social} {L : Prop}

theorem Evolves.orderly {a : Action α} (ha : a.Evolves s) (h : s.store.Orderly) :
    (a.after s).store.Orderly :=
  ha.store.keeps Store.Orderly.change h

/-! ## What is done afterwards -/

/-- Whom a notification names is there. -/
structure Tellable (s : Social) (new : NewNotification) : Prop where
  recipient : s.store.users.has new.recipientId = true
  actor : s.store.users.has new.actorId = true
  tweet : ∀ t, new.tweetId = some t → s.store.tweets.has t = true

theorem told_after_notify (h : s.store.Orderly) {new : NewNotification} (hnew : Tellable s new) :
    s.Told new ((Action.notify new.recipientId new.actorId new.tweetId new.kind).after s) := by
  rw [Action.notify]
  split
  · rename_i hown
    exact .own hown
  · rename_i hother
    rw [after_attempt, after_bind]
    cases hrun : Store.createNotification s.now new s.store with
    | error e =>
      rw [answer_change_of_error hrun, after_change_of_error hrun]
      exact .full
        (Store.of_createNotification_error h hnew.recipient hnew.actor hnew.tweet hrun)
    | ok found =>
      obtain ⟨n, store⟩ := found
      have hadded : (Action.change fun now ↦ Store.createNotification now new).Answers s _ :=
        .change hrun
      obtain ⟨_, hanswer, rfl, hafter⟩ := hadded
      obtain ⟨time, notifications, hroom, hlist, -, -, hnamed, hread, rfl⟩ :=
        Store.of_createNotification hrun
      rw [hanswer, hafter]
      exact .added hother hroom hnamed hlist hread

theorem answer_notify (recipient actor : Int) (tweet : Option Int) (kind : NotificationKind) :
    (Action.notify recipient actor tweet kind).answer s = .ok () := by
  rw [Action.notify]
  split
  · rfl
  · exact answer_attempt _

theorem Answers.notify (h : s.store.Orderly) {new : NewNotification} (hnew : Tellable s new) :
    (Action.notify new.recipientId new.actorId new.tweetId new.kind).Answers s fun _ s' ↦
      s.Told new s' ∧ s'.store.Orderly :=
  ⟨(), answer_notify _ _ _ _, told_after_notify h hnew, (Evolves.notify _ _ _ _).orderly h⟩

theorem answer_recordTags (tweet : Int) (tags : List String) :
    (Action.recordTags tweet tags).answer s = .ok () := by
  induction tags generalizing s with
  | nil => rfl
  | cons tag tags ih =>
    have hfirst : (Action.recordTag tweet tag).answer s = .ok () := answer_attempt _
    rw [Action.recordTags, answer_bind, hfirst]
    exact ih

/-- What neither a new hashtag nor a new link changes, recording hashtags does not change. -/
theorem part_after_recordTags {γ : Type} (part : Store → γ)
    (htag : ∀ {now name s u s'}, Store.addTag now name s = .ok (u, s') → part s' = part s)
    (hlink : ∀ {tweet tag s u s'}, Store.linkTag tweet tag s = .ok (u, s') → part s' = part s)
    (tweet : Int) (tags : List String) (s : Social) :
    part ((Action.recordTags tweet tags).after s).store = part s.store := by
  have hstatement : ∀ {β : Type} {statement : Nat → Store → Except StoreError (β × Store)},
      (∀ {now s x s'}, statement now s = .ok (x, s') → part s' = part s) →
        ∀ s, part ((Action.change statement).after s).store = part s.store := by
    intro β statement h s
    rcases change_error_or_ok s statement with ⟨-, -, hafter⟩ | ⟨x, s', hrun, -, hafter⟩ <;>
      rw [hafter]
    exact h hrun
  induction tags generalizing s with
  | nil => rfl
  | cons tag tags ih =>
    refine part_after_bind s (part ·.store) (fun s ↦ ?_) fun _ s ↦ ih s
    rw [Action.recordTag, after_attempt]
    refine part_after_bind s (part ·.store) (fun s ↦ ?_) fun id s ↦ hstatement hlink s
    refine part_after_bind s (part ·.store) (fun s ↦ hstatement htag s) fun _ s ↦ ?_
    rw [after_ask]

/-- Recording hashtags writes to hashtags and their links only. -/
theorem rest_after_recordTags (tweet : Int) (tags : List String) (s : Social) :
    ((Action.recordTags tweet tags).after s).store.tweets = s.store.tweets ∧
      ((Action.recordTags tweet tags).after s).store.notifications = s.store.notifications ∧
      ((Action.recordTags tweet tags).after s).store.counters.notifications =
        s.store.counters.notifications := by
  simp only [← Prod.mk.injEq]
  refine part_after_recordTags
    (fun s ↦ (s.tweets, s.notifications, s.counters.notifications)) ?_ ?_ tweet tags s
  · intro now name s u s' h
    rcases Store.of_addTag h with rfl | ⟨_, _, -, -, -, rfl⟩ <;> rfl
  · intro tweet tag s u s' h
    rcases Store.of_linkTag h with rfl | ⟨_, _, -, -, -, -, -, rfl⟩ <;> rfl

theorem Answers.recordTags (h : s.store.Orderly) (tweet : Int) (tags : List String) :
    (Action.recordTags tweet tags).Answers s fun _ s' ↦
      s' = (Action.recordTags tweet tags).after s ∧ s'.store.Orderly ∧
        s'.store.tweets = s.store.tweets :=
  ⟨(), answer_recordTags _ _, rfl, (Evolves.recordTags _ _).orderly h,
    (rest_after_recordTags _ _ _).1⟩

theorem Answers.getTweet (h : s.store.Orderly) {tweet : Int}
    (htweet : s.store.tweets.has tweet = true) (viewer : Option Int) :
    (Action.getTweet tweet viewer).Answers s fun i s' ↦ i.tweet.id = tweet ∧ s' = s := by
  obtain ⟨i, hi, hid⟩ := answer_getTweet_eq_ok h.toReadable viewer htweet
  exact ⟨i, hi, hid, (Looks.getTweet tweet viewer).after s⟩

/-- The hashtags of a tweet that is stored are recorded, and then it is shown. -/
theorem Answers.recordPost (h : s.store.Orderly) {tweet : Int}
    (htweet : s.store.tweets.has tweet = true) (tags : List String) (viewer : Option Int) :
    (do Action.recordTags tweet tags
        Action.getTweet tweet viewer : Action Item).Answers s fun i s' ↦
      i.tweet.id = tweet ∧ s' = (Action.recordTags tweet tags).after s := by
  refine (Answers.recordTags h _ _).bind ?_
  rintro _ s' ⟨rfl, hs', htweets⟩
  exact Answers.getTweet hs' (htweets ▸ htweet) _

/-! ## Checks -/

theorem Finds.resolve (h : s.store.Orderly) (tweet : Int) : (Action.resolve tweet).Finds s L fun t ↦
    ∃ row, s.store.original? tweet = some row ∧ row.read = .ok t := by
  refine Finds.bind (Finds.requireTweet h tweet) ?_
  rintro t ⟨row, hget, hread⟩
  have hretweet := (Store.of_readTweet hread).2.2
  split
  · rename_i target htarget
    refine (Finds.requireTweet h target).imp_right fun hfound ↦ hfound.imp ?_
    rintro u s' ⟨rfl, original, hget', hread'⟩
    refine ⟨rfl, original, ?_, hread'⟩
    rw [Store.original?, hget, Option.bind_some, ← hretweet, htarget]
    exact hget'
  · rename_i hnone
    refine Finds.pure t ⟨row, ?_, hread⟩
    rw [Store.original?, hget, Option.bind_some, ← hretweet, hnone]
    rfl

/-! ## The requests -/

/-- Whoever wrote a stored tweet has an account, also after a statement. -/
theorem has_author (h : s.store.Orderly) {row : StoredTweet} (hrow : row ∈ s.store.tweets.list)
    {store : Store} (hchange : s.store.Change s.now store) :
    store.users.has row.userId = true :=
  hchange.has_user (h.grounded.author row hrow)

/-- Once a retweet is recorded, whoever wrote the tweet is told, and the record is answered. -/
theorem Answers.tellRetweet (h : s.store.Orderly) {user : Int} {row : StoredTweet} {t : Tweet}
    {store : Store} (huser : s.store.users.has user = true) (hrow : row ∈ s.store.tweets.list)
    (hresolved : s.store.Resolved row.id)
    (hrun : s.store.createRetweet s.now user row.id = .ok (some t, store)) :
    (do Action.notify row.userId user (some row.id) .retweet
        Action.getTweet t.id (some user) : Action Item).Answers { s with store } fun i s' ↦
      i.tweet.id = t.id ∧
        Social.Told ⟨row.userId, user, some row.id, .retweet⟩ { s with store } s' := by
  have hchange : s.store.Change s.now store := .retweet hresolved hrun
  have hnew : Tellable { s with store } ⟨row.userId, user, some row.id, .retweet⟩ := by
    refine ⟨has_author h hrow hchange, hchange.has_user huser, ?_⟩
    rintro _ ⟨⟩
    exact Store.has_of_createRetweet_of_has hrun (Rows.has_iff.2 ⟨row, hrow, rfl⟩)
  refine (Answers.notify (h.change hchange) hnew).bind ?_
  rintro _ s₁ ⟨htold, hs₁⟩
  refine (Answers.getTweet hs₁ ?_ _).imp ?_
  · rw [htold.tweets]
    exact Store.has_of_createRetweet hrun
  · rintro i _ ⟨hi, rfl⟩
    exact ⟨hi, htold⟩

namespace Ends

variable (h : s.store.Orderly)

include h

/-- Somebody posts, whoever wrote the tweet that is answered is told, and the hashtags are
recorded. -/
theorem createTweet (user : Int) (content : Option String) (parent : Option Int) :
    (Action.createTweet user content parent).Ends s
        (s.store.counters.tweets = Decimal.greatest) fun i s' ↦
      ∃ text t store s₁, tidy content = some text ∧
        s.store.createTweet s.now user (some text) parent = .ok (t, store) ∧ i.tweet.id = t.id ∧
        (parent.elim (s₁ = { s with store }) fun id ↦ ∃ row,
          s.store.tweets.get? id = some row ∧
            Social.Told ⟨row.userId, user, some t.id, .reply⟩ { s with store } s₁) ∧
        s₁.store.Orderly ∧ s' = (Action.recordTags t.id (hashtags text)).after s₁ := by
  refine Finds.bind (Finds.orFail (by decide) _) fun text htext ↦ ?_
  refine Finds.bind (Finds.requireActor h user) fun _ huser ↦ ?_
  cases parent with
  | none =>
    refine Finds.bind (Finds.pure none rfl) ?_
    rintro _ rfl
    have seen : ∀ p, none = some p → s.store.tweets.has p = true := by simp
    refine Ends.change_bind (fun e ↦ Store.of_createTweet_error h.toReadable huser seen)
      fun t store hrun ↦ .inl ?_
    have hafter : store.Orderly := h.change (.post seen hrun)
    refine (Answers.recordPost hafter (Store.has_of_createTweet hrun) _ _).imp ?_
    rintro i _ ⟨hi, rfl⟩
    exact ⟨text, t, store, _, htext, hrun, hi, rfl, hafter, rfl⟩
  | some id =>
    refine Finds.bind (Finds.requireTweet h id) ?_
    rintro answered ⟨row, hget, hread⟩
    refine Finds.bind (Finds.pure (some answered) rfl) ?_
    rintro _ rfl
    have seen : ∀ p, some id = some p → s.store.tweets.has p = true := by
      rintro _ ⟨⟩
      rw [Rows.has, hget]
      rfl
    refine Ends.change_bind (fun e ↦ Store.of_createTweet_error h.toReadable huser seen)
      fun t store hrun ↦ .inl ?_
    have hchange : s.store.Change s.now store := .post seen hrun
    have hstored := Store.has_of_createTweet hrun
    have hnew : Tellable { s with store } ⟨row.userId, user, some t.id, .reply⟩ :=
      ⟨has_author h (Rows.get?_eq_some_iff.1 hget).1 hchange, hchange.has_user huser,
        fun _ ht ↦ Option.some.inj ht ▸ hstored⟩
    dsimp only
    rw [(Store.of_readTweet hread).2.1]
    refine (Answers.notify (h.change hchange) hnew).bind ?_
    rintro _ s₁ ⟨htold, hs₁⟩
    refine (Answers.recordPost hs₁ (htold.tweets ▸ hstored) _ _).imp ?_
    rintro i _ ⟨hi, rfl⟩
    exact ⟨text, t, store, s₁, htext, hrun, hi, ⟨row, hget, htold⟩, hs₁, rfl⟩

/-- Somebody deletes a tweet of their own, or takes a retweet back. -/
theorem deleteTweet (user tweet : Int) : (Action.deleteTweet user tweet).Ends s
    (s.store.TooDeep user) fun _ s' ↦
    ∃ row b store, s.store.tweets.get? tweet = some row ∧ row.userId = user ∧
      (match row.retweetId with
      | some target => s.store.deleteRetweet user target = .ok (b, store)
      | none => s.store.deleteTweet tweet user = .ok (b, store)) ∧
      s' = { s with store } := by
  refine Finds.bind (Finds.requireTweet h tweet) ?_
  rintro t ⟨row, hget, hread⟩
  obtain ⟨-, hauthor, hretweet⟩ := Store.of_readTweet hread
  dsimp only
  split
  · exact .inl (Refuses.bind (Refuses.fail (by decide)))
  · rename_i hown
    rw [hauthor, not_not] at hown
    split
    · rename_i target htarget
      refine Ends.change_bind (fun e ↦ Store.of_deleteRetweet_error h.toReadable)
        fun b store hrun ↦ .inl (Answers.pure _ ⟨row, b, store, hget, hown, ?_, rfl⟩)
      rw [← hretweet, htarget]
      exact hrun
    · rename_i hnone
      refine Ends.change_bind (fun e ↦ Store.of_deleteTweet_error h.toReadable)
        fun b store hrun ↦ .inl (Answers.pure _ ⟨row, b, store, hget, hown, ?_, rfl⟩)
      rw [← hretweet, hnone]
      exact hrun

/-- Somebody likes a tweet, and its author is told if that is new. -/
theorem like (user tweet : Int) : (Action.like user tweet).Ends s False fun _ s' ↦
    ∃ row added store, s.store.tweets.get? tweet = some row ∧
      s.store.like s.now user tweet = .ok (added, store) ∧
      if added then Social.Told ⟨row.userId, user, some tweet, .like⟩ { s with store } s'
      else s' = { s with store } := by
  refine Finds.bind (Finds.requireActor h user) fun _ huser ↦ ?_
  refine Finds.bind (Finds.requireTweet h tweet) ?_
  rintro t ⟨row, hget, hread⟩
  obtain ⟨hrow, hid⟩ := Rows.get?_eq_some_iff.1 hget
  obtain ⟨htid, htuser, -⟩ := Store.of_readTweet hread
  have htweet : s.store.tweets.has tweet = true := Rows.has_iff.2 ⟨row, hrow, hid⟩
  refine Ends.change_bind
    (Store.like_ne_error h.toReadable huser htweet)
    fun added store hrun ↦ .inl ?_
  cases added with
  | false => exact Answers.pure _ ⟨row, false, store, hget, hrun, rfl⟩
  | true =>
    have hchange : s.store.Change s.now store := .like hrun
    have hnew : Tellable { s with store } ⟨row.userId, user, some tweet, .like⟩ := by
      refine ⟨has_author h hrow hchange, hchange.has_user huser, ?_⟩
      rintro _ ⟨⟩
      exact (Store.has_of_like hrun).trans htweet
    rw [htuser, htid.trans hid]
    exact (Answers.notify (h.change hchange) hnew).imp fun _ s' hs' ↦
      ⟨row, true, store, hget, hrun, hs'.1⟩

theorem unlike (user tweet : Int) : (Action.unlike user tweet).Ends s False fun _ s' ↦
    ∃ b store, s.store.unlike user tweet = .ok (b, store) ∧ s' = { s with store } :=
  Ends.change_bind
    (Store.unlike_ne_error h.toReadable user tweet)
    fun b store hrun ↦ .inl (Answers.pure _ ⟨b, store, hrun, rfl⟩)

/-- Somebody retweets the original of a tweet, and whoever wrote that is told. -/
theorem retweet (user tweet : Int) : (Action.retweet user tweet).Ends s
    (s.store.counters.tweets = Decimal.greatest) fun i s' ↦
    ∃ row t store, s.store.original? tweet = some row ∧
      s.store.createRetweet s.now user row.id = .ok (some t, store) ∧ i.tweet.id = t.id ∧
      Social.Told ⟨row.userId, user, some row.id, .retweet⟩ { s with store } s' := by
  refine Finds.bind (Finds.requireActor h user) fun _ huser ↦ ?_
  refine Finds.bind (Finds.resolve h tweet) ?_
  rintro target ⟨row, horiginal, hread⟩
  obtain ⟨htid, htuser, -⟩ := Store.of_readTweet hread
  obtain ⟨hrow, hresolved⟩ := Store.of_original? horiginal
  have htarget : s.store.tweets.has row.id = true := Rows.has_iff.2 ⟨row, hrow, rfl⟩
  rw [htid, htuser]
  refine Ends.change_bind
    (fun e ↦ Store.of_createRetweet_error h.toReadable huser htarget) fun o store hrun ↦ ?_
  cases o with
  | none =>
    rcases Store.createRetweet_cases hrun with ⟨-, rfl⟩ | ⟨_, _, hsome, -⟩
    · exact .inr ⟨rfl, Refuses.bind (Refuses.fail (by decide))⟩
    · cases hsome
  | some t =>
    have hsome : (Action.orFail .alreadyRetweeted (some t)).Answers { s with store } fun u s' ↦
        u = t ∧ s' = { s with store } := Answers.pure t ⟨rfl, rfl⟩
    refine .inl (hsome.bind ?_)
    rintro _ _ ⟨rfl, rfl⟩
    exact (Answers.tellRetweet h huser hrow hresolved hrun).imp fun i s' ⟨hi, htold⟩ ↦
      ⟨row, _, store, horiginal, hrun, hi, htold⟩

/-- Somebody takes back a retweet of the original of a tweet. -/
theorem undoRetweet (user tweet : Int) : (Action.undoRetweet user tweet).Ends s
    (s.store.TooDeep user) fun _ s' ↦
    ∃ row b store, s.store.original? tweet = some row ∧
      s.store.deleteRetweet user row.id = .ok (b, store) ∧ s' = { s with store } := by
  refine Finds.bind (Finds.resolve h tweet) ?_
  rintro target ⟨row, horiginal, hread⟩
  rw [(Store.of_readTweet hread).1]
  exact Ends.change_bind (fun e ↦ Store.of_deleteRetweet_error h.toReadable)
    fun b store hrun ↦ .inl (Answers.pure _ ⟨row, b, store, horiginal, hrun, rfl⟩)

/-- Somebody changes their profile. -/
theorem updateProfile (id : Int) (displayName bio : Option String) :
    (Action.updateProfile id displayName bio).Ends s False fun _ s' ↦
      ∃ user b store, s.store.user? id = .ok (some user) ∧
        s.store.writeProfile s.now id ⟨edited user.displayName displayName, edited user.bio bio⟩ =
          .ok (b, store) ∧ s' = { s with store } := by
  obtain ⟨o, hrun, hstored⟩ := h.user?_eq_ok id
  refine Finds.bind (Finds.ask hrun rfl) ?_
  rintro _ rfl
  refine Finds.bind (Finds.orFail (by decide) o) ?_
  rintro user rfl
  have hid : s.store.users.has id = true := hstored.1 rfl
  dsimp only
  rw [putProfile, bind_assoc]
  refine Ends.change_bind (Store.writeProfile_ne_error h.toReadable id _)
    fun b store hwrite ↦ ?_
  have hchange : s.store.Change s.now store := .profile hwrite
  cases b with
  | false =>
    rcases Store.of_writeProfile hwrite with ⟨-, rfl⟩ | ⟨htrue, -⟩
    · exact .inr ⟨rfl, Refuses.fail (by decide)⟩
    · cases htrue
  | true =>
    -- the account is still there, so that it is found again
    obtain ⟨o, hfound, hthere⟩ := (h.change hchange).user?_eq_ok id
    obtain ⟨u, rfl⟩ := Option.isSome_iff_exists.1 (hthere.2 (hchange.has_user hid))
    refine .inl ((Answers.ask hfound).bind ?_)
    rintro _ _ ⟨rfl, rfl⟩
    exact Answers.pure u ⟨user, true, store, hrun, hwrite, rfl⟩

/-- Somebody follows somebody, who is told if that is new. -/
theorem follow (follower target : Int) : (Action.follow follower target).Ends s False
    fun added s' ↦
    ∃ store, s.store.follow s.now follower target = .ok (added, store) ∧
      if added then Social.Told ⟨target, follower, none, .follow⟩ { s with store } s'
      else s' = { s with store } := by
  rw [Action.follow]
  dsimp only
  split
  · exact .inl (Refuses.bind (Refuses.fail (by decide)))
  refine Finds.bind (Finds.requireActor h follower) fun _ hfollower ↦ ?_
  obtain ⟨o, hrun, hstored⟩ := h.user?_eq_ok target
  refine Finds.bind (Finds.ask hrun rfl) ?_
  rintro _ rfl
  refine Finds.bind (Finds.orFail (by decide) o) ?_
  rintro user rfl
  have htarget : s.store.users.has target = true := hstored.1 rfl
  refine Ends.change_bind
    (Store.follow_ne_error h.toReadable hfollower htarget)
    fun added store hrun ↦ .inl ?_
  cases added with
  | false => exact Answers.pure _ ⟨store, hrun, rfl⟩
  | true =>
    have hchange : s.store.Change s.now store := .follow hrun
    have hnew : Tellable { s with store } ⟨target, follower, none, .follow⟩ :=
      ⟨hchange.has_user htarget, hchange.has_user hfollower, by simp⟩
    refine (Answers.notify (h.change hchange) hnew).bind fun _ s' hs' ↦ ?_
    exact Answers.pure true ⟨store, hrun, hs'.1⟩

theorem unfollow (follower target : Int) : (Action.unfollow follower target).Ends s False
    fun _ s' ↦
    ∃ b store, s.store.unfollow follower target = .ok (b, store) ∧ s' = { s with store } :=
  Ends.change_bind
    (Store.unfollow_ne_error h.toReadable follower target)
    fun b store hrun ↦ .inl (Answers.pure _ ⟨b, store, hrun, rfl⟩)

end Ends

end Action

end Microblog
