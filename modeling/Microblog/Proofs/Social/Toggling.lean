import Microblog.Proofs.Social.Undoing

/-!
# Requests that switch something

To like, to follow, and no longer to do so: such a request says how things are to be.  Made for a
second time it changes nothing, and after the opposite one everything is as it was, but for the
notifications that were sent.  The same is so of a retweet that is taken back.

`Action.Switches` is what all four requests have in common: either the statement behind the request
is carried out, or the checks fail and the statement would do nothing anyway, whatever the time.
-/

set_option autoImplicit false

namespace Microblog

theorem Social.Told.resembles {new : NewNotification} {s s' : Social} (h : s.Told new s') :
    s.store.Resembles s'.store := by
  cases h with
  | own | full => exact .refl _
  | added => exact ⟨_, _, rfl⟩

namespace Store

/-! ## What a tweet stands for -/

/-- What a tweet stands for is the same as long as all tweets stay. -/
theorem original?_of_stays {s s' : Store} {tweet : Int} {row : StoredTweet}
    (hstay : s.TweetsStay s')
    (horiginal : s.original? tweet = some row) :
    ∃ row', s'.original? tweet = some row' ∧ row'.id = row.id := by
  have hget {id : Int} {t : StoredTweet} (hget : s.tweets.get? id = some t) :
      ∃ t', s'.tweets.get? id = some t' ∧ t'.id = t.id ∧ t'.retweetId = t.retweetId := by
    obtain ⟨ht, rfl⟩ := Rows.get?_eq_some_iff.1 hget
    obtain ⟨t', ht', hid, hretweet⟩ := hstay t ht
    exact ⟨t', Rows.get?_eq_some_iff.2 ⟨ht', hid⟩, hid, hretweet⟩
  obtain ⟨t, ht, hpoints⟩ := Option.bind_eq_some_iff.1 horiginal
  obtain ⟨t', ht', hid, hretweet⟩ := hget ht
  cases hrecord : t.retweetId with
  | none =>
    rw [hrecord] at hpoints hretweet
    obtain rfl := Option.some.inj hpoints
    exact ⟨t', by rw [original?, ht', Option.bind_some, hretweet, Option.elim_none], hid⟩
  | some target =>
    rw [hrecord] at hpoints hretweet
    obtain ⟨row', hrow', hid', -⟩ := hget hpoints
    exact ⟨row', by rw [original?, ht', Option.bind_some, hretweet, Option.elim_some, hrow'],
      hid'⟩

/-- A retweet takes nothing out. -/
theorem tweetsStay_of_createRetweet {now : Nat} {s s' : Store} {user target : Int}
    {o : Option Tweet} (hrun : s.createRetweet now user target = .ok (o, s')) :
    s.TweetsStay s' := by
  rcases of_createRetweet hrun with rfl | ⟨tweets, hposted, rfl⟩
  · exact .refl _
  · obtain ⟨time, hlist⟩ := hposted.list
    intro t ht
    refine ⟨_, List.mem_map_of_mem (hlist ▸ List.mem_append_left _ ht), ?_⟩
    split <;> exact ⟨rfl, rfl⟩

theorem Resembles.stays {s s' s₁ : Store} (h : s'.Resembles s₁) (hstay : s.TweetsStay s') :
    s.TweetsStay s₁ := by
  obtain ⟨_, _, rfl⟩ := h
  exact hstay

end Store

namespace Action

variable {α : Type} {s : Social} {user tweet follower target : Int} {row : StoredTweet}

/-! ## Carrying out a statement -/

/-- The request carries out the statement, and tells somebody if that was new; or it does nothing,
and then the statement would do nothing at any time. -/
def Switches (a : Action α) (s : Social)
    (statement : Nat → Store → Except StoreError (Bool × Store)) : Prop :=
  (∃ b store, statement s.now s.store = .ok (b, store) ∧ store.Resembles (a.after s).store ∧
    (b = false → (a.after s).store = store)) ∨
  a.after s = s ∧ ∀ now b store, statement now s.store = .ok (b, store) →
    b = false ∧ store = s.store

/-- A request whose statement does nothing the second time does nothing the second time. -/
theorem Switches.twice {a : Action α} {s' : Social}
    {statement : Nat → Store → Except StoreError (Bool × Store)} (h : a.Switches s statement)
    (h' : a.Switches s' statement) (hstore : s'.store = (a.after s).store)
    (htwice : ∀ {b b' : Bool} {store s₁ store' : Store}, statement s.now s.store = .ok (b, store) →
      store.Resembles s₁ → statement s'.now s₁ = .ok (b', store') → b' = false ∧ store' = s₁) :
    (a.after s').store = (a.after s).store := by
  rcases h' with ⟨b', store', hrun', -, hidle⟩ | ⟨hsame, -⟩
  · have hnothing : b' = false ∧ store' = (a.after s).store := by
      rw [hstore] at hrun'
      rcases h with ⟨b, store, hrun, hresembles, -⟩ | ⟨hsame, hnever⟩
      · exact htwice hrun hresembles hrun'
      · rw [hsame] at hrun' ⊢
        exact hnever _ _ _ hrun'
    rw [hidle hnothing.1, hnothing.2]
  · rw [hsame, hstore]

/-- What the request has switched, a statement that does the opposite switches back. -/
theorem Switches.undone {β : Type} {a : Action α} {back : Action β} {s' : Social}
    {statement : Nat → Store → Except StoreError (Bool × Store)}
    {undo : Store → Except StoreError (Bool × Store)} (h : a.Switches s statement)
    (hstore : s'.store = (a.after s).store)
    (hback : ∃ b store, undo s'.store = .ok (b, store) ∧ back.after s' = { s' with store })
    (hexact : (back.after s').store.CountersExact)
    (hfree : ∀ {b store}, undo s.store = .ok (b, store) → store = s.store)
    (hundo : ∀ {b b' store s₁ store'}, statement s.now s.store = .ok (b, store) →
      store.Resembles s₁ → undo s₁ = .ok (b', store') → store'.CountersExact →
        s.store.Resembles store') :
    s.store.Resembles (back.after s').store := by
  obtain ⟨b', store', hrun', hafter⟩ := hback
  rw [hafter] at hexact ⊢
  rcases h with ⟨b, store, hrun, hsame, -⟩ | ⟨hidle, -⟩
  · exact hundo hrun (hstore ▸ hsame) hrun' hexact
  · rw [hstore, hidle] at hrun'
    exact hfree hrun' ▸ .refl _

/-- One statement is all that the request does. -/
theorem answers_only_change {β : Type} {statement : Nat → Store → Except StoreError (β × Store)}
    {x : β} {store : Store} (h : statement s.now s.store = .ok (x, store)) :
    (do let _ ← change statement : Action Unit).Answers s fun _ s' ↦ s' = { s with store } :=
  (Answers.change h).bind fun _ _ hs' ↦ .pure () hs'.2

/-! ## Likes and follows -/

theorem switches_like (h : s.store.Orderly) (user tweet : Int) :
    (like user tweet).Switches s fun now ↦ Store.like now user tweet := by
  rcases Ends.like h user tweet with ⟨f, hfails, hafter, -⟩ |
    ⟨_, -, row, b, store, -, hrun, hafter⟩
  · refine .inr ⟨hafter, fun now b store hrun ↦ (Store.of_like hrun).resolve_right ?_⟩
    rintro ⟨-, _, _, -, -, huser, htweet, -⟩
    rw [answer_like_eq_ok h.toReadable huser htweet] at hfails
    cases hfails
  · refine .inl ⟨b, store, hrun, ?_, ?_⟩
    · split at hafter
      · exact hafter.resembles
      · rw [hafter]
        exact .refl _
    · rintro rfl
      rw [hafter]

theorem exists_unlike (h : s.store.Orderly) (user tweet : Int) :
    ∃ b store, s.store.unlike user tweet = .ok (b, store) ∧
      (unlike user tweet).after s = { s with store } := by
  cases hrun : s.store.unlike user tweet with
  | error e => exact absurd hrun (Store.unlike_ne_error h.toReadable user tweet e)
  | ok done =>
    obtain ⟨b, store⟩ := done
    obtain ⟨_, -, hafter⟩ : (unlike user tweet).Answers s _ :=
      answers_only_change hrun
    exact ⟨b, store, rfl, hafter⟩

theorem switches_unlike (h : s.store.Orderly) (user tweet : Int) :
    (unlike user tweet).Switches s fun _ ↦ Store.unlike user tweet := by
  obtain ⟨b, store, hrun, hafter⟩ := exists_unlike h user tweet
  refine .inl ⟨b, store, hrun, ?_, fun _ ↦ ?_⟩ <;> rw [hafter]
  exact .refl _

/-- Of two accounts that are stored, one may follow the other. -/
theorem answer_follow_ne_error (h : s.store.Orderly) (hother : follower ≠ target)
    (hfollower : s.store.users.has follower = true) (htarget : s.store.users.has target = true)
    (f : Failure) : (follow follower target).answer s ≠ .error f := by
  obtain ⟨o, hasked, hsome⟩ := h.user?_eq_ok target
  obtain ⟨u, rfl⟩ := Option.isSome_iff_exists.1 (hsome.2 htarget)
  have hfound : (orFail .noUser (some u)).answer s = .ok u := rfl
  intro hfails
  rw [follow] at hfails
  dsimp only at hfails
  rw [if_neg hother,
    answer_bind_of_ok (.requireActor _) (answer_requireActor_eq_ok h.toReadable hfollower),
    answer_bind_of_ok (.ask _) ((answer_ask_eq_ok_iff s).2 hasked),
    answer_bind_of_ok (.orFail _ _) hfound, answer_bind] at hfails
  cases hrun : s.store.follow s.now follower target with
  | error e => exact Store.follow_ne_error h.toReadable hfollower htarget e hrun
  | ok done =>
    obtain ⟨added, store⟩ := done
    obtain ⟨_, hanswer, rfl, -⟩ :
      (change fun now ↦ Store.follow now follower target).Answers s _ := .change hrun
    rw [hanswer, Except.bind] at hfails
    split at hfails
    · rw [answer_bind, answer_notify] at hfails
      cases hfails
    · cases hfails

theorem switches_follow (h : s.store.Orderly) (follower target : Int) :
    (follow follower target).Switches s fun now ↦ Store.follow now follower target := by
  rcases Ends.follow h follower target with ⟨f, hfails, hafter, -⟩ |
    ⟨b, -, store, hrun, hafter⟩
  · refine .inr ⟨hafter, fun now b store hrun ↦ (Store.of_follow hrun).resolve_right ?_⟩
    rintro ⟨-, _, _, -, -, hother, hfollower, htarget, -⟩
    exact answer_follow_ne_error h hother hfollower htarget f hfails
  · refine .inl ⟨b, store, hrun, ?_, ?_⟩
    · split at hafter
      · exact hafter.resembles
      · rw [hafter]
        exact .refl _
    · rintro rfl
      rw [hafter]

theorem exists_unfollow (h : s.store.Orderly) (follower target : Int) :
    ∃ b store, s.store.unfollow follower target = .ok (b, store) ∧
      (unfollow follower target).after s = { s with store } := by
  cases hrun : s.store.unfollow follower target with
  | error e => exact absurd hrun (Store.unfollow_ne_error h.toReadable follower target e)
  | ok done =>
    obtain ⟨b, store⟩ := done
    obtain ⟨_, -, hafter⟩ : (unfollow follower target).Answers s _ :=
      answers_only_change hrun
    exact ⟨b, store, rfl, hafter⟩

theorem switches_unfollow (h : s.store.Orderly) (follower target : Int) :
    (unfollow follower target).Switches s fun _ ↦ Store.unfollow follower target := by
  obtain ⟨b, store, hrun, hafter⟩ := exists_unfollow h follower target
  refine .inl ⟨b, store, hrun, ?_, fun _ ↦ ?_⟩ <;> rw [hafter]
  exact .refl _

/-! ## Retweets -/

/-- A retweet is made, or nothing happens. -/
theorem retweet_cases (h : s.store.Orderly) (user tweet : Int) :
    (∃ row o store, s.store.original? tweet = some row ∧
      s.store.createRetweet s.now user row.id = .ok (o, store) ∧
      store.Resembles ((retweet user tweet).after s).store) ∨
    (retweet user tweet).after s = s := by
  rcases Ends.retweet h user tweet with ⟨f, -, hafter, -⟩ |
    ⟨_, -, row, t, store, horiginal, hrun, -, htold⟩
  · exact .inr hafter
  · exact .inl ⟨row, some t, store, horiginal, hrun, htold.resembles⟩

/-- A tweet that stands for one that is stored is resolved. -/
theorem answer_resolve_eq_ok (h : s.store.Orderly)
    (horiginal : s.store.original? tweet = some row) :
    ∃ t, (resolve tweet).answer s = .ok t ∧ row.read = .ok t := by
  have hresolves : ∃ t, (resolve tweet).answer s = .ok t := by
    obtain ⟨r, hget, hpoints⟩ := Option.bind_eq_some_iff.1 horiginal
    obtain ⟨hr, hid⟩ := Rows.get?_eq_some_iff.1 hget
    obtain ⟨t, hfound, -, hretweet⟩ := answer_requireTweet_of_mem h hr
    rw [show r.id = tweet from hid] at hfound
    rw [resolve, answer_bind_of_ok (.requireTweet _) hfound, hretweet]
    cases hrecord : r.retweetId with
    | none => exact ⟨t, rfl⟩
    | some target =>
      rw [hrecord] at hpoints
      obtain ⟨hrow, rfl⟩ := Rows.get?_eq_some_iff.1 hpoints
      obtain ⟨t, hfound, -⟩ := answer_requireTweet_of_mem h hrow
      exact ⟨t, hfound⟩
  obtain ⟨t, hanswer⟩ := hresolves
  rcases Finds.resolve (L := False) h tweet with
    ⟨f, hfails, -⟩ | ⟨t', hanswer', -, row', hrow', hread⟩
  · cases hanswer.symm.trans hfails
  · obtain rfl := Except.ok.inj (hanswer.symm.trans hanswer')
    obtain rfl := Option.some.inj (horiginal.symm.trans hrow')
    exact ⟨t, hanswer, hread⟩

theorem undoRetweet_of_original (h : s.store.Orderly)
    (horiginal : s.store.original? tweet = some row) {b : Bool} {store : Store}
    (hrun : s.store.deleteRetweet user row.id = .ok (b, store)) :
    (undoRetweet user tweet).Answers s fun _ s' ↦ s' = { s with store } := by
  obtain ⟨t, hresolve, hread⟩ := answer_resolve_eq_ok h horiginal
  have hresolves : (resolve tweet).Answers s fun t' s' ↦ t' = t ∧ s' = s :=
    ⟨t, hresolve, rfl, (Looks.resolve tweet).after s⟩
  refine hresolves.bind ?_
  rintro _ _ ⟨rfl, rfl⟩
  rw [(Store.of_readTweet hread).1]
  exact answers_only_change hrun

end Action

/-! ## Runs -/

/-- A request that says how things are to be. -/
def Operation.switches : Operation → Bool
  | .like .. | .unlike .. | .follow .. | .unfollow .. => true
  | _ => false

namespace Social

/-- Doing something twice is doing it once, and what is undone has not been done. -/
structure Toggles (s : Social) : Prop where
  /-- Made for the second time, a request changes nothing, however much time has passed. -/
  twice : ∀ op ns, op.switches = true →
    (s.run [op, .advance ns, op]).store = (s.run [op]).store
  /-- Who does not like a tweet, likes it and then likes it no longer. -/
  like : ∀ user tweet ns, s.store.likes.has (user, tweet) = false →
    s.store.Resembles (s.run [.like user tweet, .advance ns, .unlike user tweet]).store
  /-- Who does not follow somebody, follows them and then follows them no longer. -/
  follow : ∀ follower target ns, s.store.follows.has (follower, target) = false →
    s.store.Resembles
      (s.run [.follow follower target, .advance ns, .unfollow follower target]).store
  /-- Who has not retweeted what a tweet stands for, retweets that and then takes it back. -/
  retweet : ∀ user tweet ns,
    (∀ row, s.store.original? tweet = some row → ¬s.store.Retweeting (some user) row.id) →
    s.store.Resembles (s.run [.retweet user tweet, .advance ns, .undoRetweet user tweet]).store

section Toggles

variable {s : Social} (h : s.store.Orderly)

include h

theorem twice_of_orderly (op : Operation) (ns : Nat) (hop : op.switches = true) :
    (s.run [op, .advance ns, op]).store = (s.run [op]).store := by
  have h' : ((s.perform op).perform (.advance ns)).store.Orderly :=
    (s.changes_perform op).keeps Store.Orderly.change h
  cases op with
  | like user tweet =>
    exact (Action.switches_like h user tweet).twice (Action.switches_like h' user tweet) rfl
      (Store.like_twice h.toReadable)
  | unlike user tweet =>
    exact (Action.switches_unlike h user tweet).twice (Action.switches_unlike h' user tweet) rfl
      Store.unlike_twice
  | follow follower target =>
    exact (Action.switches_follow h follower target).twice
      (Action.switches_follow h' follower target) rfl (Store.follow_twice h.toReadable)
  | unfollow follower target =>
    exact (Action.switches_unfollow h follower target).twice
      (Action.switches_unfollow h' follower target) rfl Store.unfollow_twice
  | _ => cases hop

theorem like_undone (user tweet : Int) (ns : Nat)
    (hnot : s.store.likes.has (user, tweet) = false) :
    s.store.Resembles (s.run [.like user tweet, .advance ns, .unlike user tweet]).store := by
  have h' : ((s.perform (.like user tweet)).perform (.advance ns)).store.Orderly :=
    (s.changes_perform _).keeps Store.Orderly.change h
  exact (Action.switches_like h user tweet).undone rfl (Action.exists_unlike h' user tweet)
    ((Action.Evolves.unlike user tweet).orderly h').exact
    (fun hrun ↦ Store.unlike_of_free hrun hnot) (Store.unlike_like h.exact hnot)

theorem follow_undone (follower target : Int) (ns : Nat)
    (hnot : s.store.follows.has (follower, target) = false) :
    s.store.Resembles
      (s.run [.follow follower target, .advance ns, .unfollow follower target]).store := by
  have h' : ((s.perform (.follow follower target)).perform (.advance ns)).store.Orderly :=
    (s.changes_perform _).keeps Store.Orderly.change h
  exact (Action.switches_follow h follower target).undone rfl
    (Action.exists_unfollow h' follower target)
    ((Action.Evolves.unfollow follower target).orderly h').exact
    (fun hrun ↦ Store.unfollow_of_free hrun hnot) (Store.unfollow_follow h.exact hnot)

theorem retweet_undone (user tweet : Int) (ns : Nat)
    (hnot : ∀ row, s.store.original? tweet = some row →
      ¬s.store.Retweeting (some user) row.id) :
    s.store.Resembles
      (s.run [.retweet user tweet, .advance ns, .undoRetweet user tweet]).store := by
  have h' : ((s.perform (.retweet user tweet)).perform (.advance ns)).store.Orderly :=
    (s.changes_perform _).keeps Store.Orderly.change h
  show s.store.Resembles ((Action.undoRetweet user tweet).after _).store
  rcases Action.retweet_cases h user tweet with ⟨row, o, store, horiginal, hrun, hsame⟩ | hsame
  · obtain ⟨b, store', hundo, hback⟩ := Store.deleteRetweet_createRetweet h
      (Store.of_original? horiginal).2 (hnot row horiginal) hrun hsame h'
    obtain ⟨row', horiginal', hid⟩ := Store.original?_of_stays
      (hsame.stays (Store.tweetsStay_of_createRetweet hrun)) horiginal
    obtain ⟨_, -, hafter⟩ :=
      Action.undoRetweet_of_original h' horiginal' (hid.symm ▸ hundo)
    rw [hafter]
    exact hback
  · have hidle : s.perform (.retweet user tweet) = s := hsame
    have hstore : ((s.perform (.retweet user tweet)).perform (.advance ns)).store = s.store := by
      rw [hidle]
      rfl
    rcases Action.Ends.undoRetweet h' user tweet with ⟨_, -, hafter, -⟩ |
      ⟨_, -, row, b, store, horiginal, hundo, hafter⟩
    · rw [hafter, hstore]
      exact .refl _
    · rw [hstore] at horiginal hundo
      rw [hafter]
      exact Store.deleteRetweet_of_free hundo (hnot row horiginal) ▸ .refl _

end Toggles

/-- **In every run, what is switched twice is switched once, and what is undone has not been
done**: the rows of all tables are what they were, with all their counters and dates, but for
notifications, and for numbers that are not given again. -/
theorem run_toggles (capacity : Nat) (cached : Bool) (lifetimes : Lifetimes)
    (ops : List Operation) : ((start capacity cached lifetimes).run ops).Toggles := by
  have h := run_orderly capacity cached lifetimes ops
  exact ⟨fun op ns hop ↦ twice_of_orderly h op ns hop, like_undone h, follow_undone h,
    retweet_undone h⟩

end Social

end Microblog
