import Microblog.Proofs.Social.Toggling

/-!
# A tweet and its retweet records

A retweet record stands for the tweet that it points at: whoever retweets the record retweets that
tweet, and whoever looks at the record is shown whether they have retweeted that tweet.  A request
finds out what a tweet stands for by looking it up, one step far, while the marks are made where
the rows are read.  `Social.run_sharesRetweets` says that both come to the same, whatever stands
for a tweet, and what comes of a retweet and of taking one back.

* Whether somebody has retweeted a tweet is all that a retweet depends on, as long as there is a
  number for the record (`Store.createRetweet_eq_some_iff`).
* Numbers can run out (`Social.retweetable_refused`).  None is given twice, so that whoever retweets
  a tweet and takes that back, time and again, uses them all up (`Social.exists_run_of_number`).
* With a record go its replies, and what hangs on those, but no other record of the same tweet
  (`Store.Deletes.mem_record`).
-/

set_option autoImplicit false

namespace Microblog

open Text

namespace Store

variable {now : Nat} {s s' s'' : Store} {user target x : Int} {o : StoredTweet}

/-! ## What stands for a tweet -/

/-- A tweet stands for `original` if it is that tweet or a record that points at it. -/
def StandsFor (s : Store) (tweet original : Int) : Prop :=
  tweet = original ∨ ∃ r ∈ s.tweets.list, r.id = tweet ∧ r.retweetId = some original

/-- What the requests find of a tweet that stands for another. -/
theorem StandsFor.original?_eq (h : s.StandsFor x o.id) (ho : o ∈ s.tweets.list)
    (hnone : o.retweetId = none) : s.original? x = some o := by
  have hget : s.tweets.get? o.id = some o := Rows.get?_eq_some_iff.2 ⟨ho, rfl⟩
  rcases h with rfl | ⟨r, hr, rfl, hretweet⟩
  · rw [original?, hget, Option.bind_some, hnone, Option.elim_none]
  · have hget' : s.tweets.get? r.id = some r := Rows.get?_eq_some_iff.2 ⟨hr, rfl⟩
    rw [original?, hget', Option.bind_some, hretweet, Option.elim_some, hget]

/-- What is shown of a tweet that stands for another. -/
theorem StandsFor.exists_target (h : s.StandsFor x o.id) (ho : o ∈ s.tweets.list)
    (hnone : o.retweetId = none) :
    ∃ t ∈ s.tweets.list, t.id = x ∧ t.retweetId.getD t.id = o.id := by
  rcases h with rfl | ⟨r, hr, rfl, hretweet⟩
  · exact ⟨o, ho, rfl, by rw [hnone, Option.getD_none]⟩
  · exact ⟨r, hr, rfl, by rw [hretweet, Option.getD_some]⟩

/-- Whether an item is marked as retweeted: that is about the target of its tweet. -/
theorem Displays.isRetweeted {viewer : Option Int} {t : StoredTweet} {i : Item}
    (h : s.Displays viewer t i) :
    i.flags.isRetweeted = true ↔ s.Retweeting viewer (t.retweetId.getD t.id) := by
  obtain ⟨row, hsee, hfills⟩ := h
  obtain ⟨hread, hflags⟩ := seeTweet_eq_ok_iff.1 hsee
  obtain ⟨hid, -, hretweet⟩ := of_readTweet hread
  rw [hfills.flags, hflags, flags, retweets?_iff, Tweet.target, hid, hretweet]

/-! ## When a record is made -/

/-- A record that is made is given a number, and is the first of its kind. -/
theorem of_createRetweet_some (h : s.Orderly) {t : Tweet}
    (hrun : s.createRetweet now user target = .ok (some t, s')) :
    ¬s.Retweeting (some user) target ∧ s.counters.tweets < Decimal.greatest := by
  obtain ⟨hnone, -⟩ | ⟨_, _, -, -, hposted, -⟩ := createRetweet_cases hrun
  · cases hnone
  refine ⟨?_, hposted.room⟩
  rintro ⟨r, hr, htarget, huser⟩
  exact hposted.unique h.grounded.index target rfl r hr (Option.some.inj huser) htarget

/-- Where no number is left, the statement fails. -/
theorem createRetweet_of_full (h : s.Orderly) (hfull : s.counters.tweets = Decimal.greatest)
    (user target : Int) : ∃ e, s.createRetweet now user target = .error e := by
  have hinsert : ∀ d : TweetDraft, d.id = none → s.insertTweet d = .error .other := by
    intro d hd
    have hchoose : chooseId d.id s.counters.tweets = .error .other := by
      rw [hd, chooseId_none_eq_error_iff, hfull]
      exact ⟨Int.lt_irrefl _, rfl⟩
    rw [insertTweet, requireAdding, h.equipped.require, hchoose]
    rfl
  refine ⟨⟨"insert retweet", .other⟩, ?_⟩
  rw [createRetweet]
  dsimp only
  rw [hinsert _ rfl]
  rfl

/-- No record is made if there is one already. -/
theorem of_createRetweet_none (h : s.Orderly)
    (hrun : s.createRetweet now user target = .ok (none, s')) :
    s.Retweeting (some user) target := by
  cases hinsert : s.insertTweet {
      userId := some (.int user)
      retweetId := some (.int target)
      createdAt := some (stamp now)
      updatedAt := some (stamp now) } with
  | ok added =>
    -- the number would have been given, but nothing has changed
    obtain ⟨-, rfl⟩ | ⟨_, _, hsome, -⟩ := createRetweet_cases hrun
    · obtain ⟨tweets, -, hs₁⟩ := of_insertTweet none (some target) hinsert
      simp only [createRetweet, hinsert, ignoring, bind_eq_ok_iff, during_eq_ok_iff, pure_eq_ok_iff,
        Except.ok.injEq, exists_eq_left', Prod.mk.injEq] at hrun
      obtain ⟨_, -, -, hs'⟩ := hrun
      have hsame := congrArg (·.counters.tweets) hs'
      rw [hs₁] at hsame
      exact absurd hsame (Int.ne_of_gt (Int.lt_add_one_iff.2 (Int.le_refl _)))
    · cases hsome
  | error c =>
    have hignored : c.isIgnored = true := by
      rw [createRetweet] at hrun
      dsimp only at hrun
      rw [hinsert, ignoring] at hrun
      by_contra hcounts
      rw [if_neg hcounts] at hrun
      cases hrun
    rcases of_insertTweet_error h.toReadable none (some target) hinsert with
      ⟨rfl, -⟩ | ⟨-, -, hcontent⟩ | ⟨-, _, ⟨⟩, r, hr, hruser, hrtarget⟩ | ⟨rfl, -⟩
    · cases hignored
    · exact absurd rfl hcontent
    · exact ⟨r, hr, hrtarget, congrArg some hruser⟩
    · cases hignored

/-- A record is made just if there is none and there is a number for it. -/
theorem createRetweet_eq_some_iff (h : s.Orderly) (huser : s.users.has user = true)
    (htarget : s.tweets.has target = true) :
    (∃ t s', s.createRetweet now user target = .ok (some t, s')) ↔
      ¬s.Retweeting (some user) target ∧ s.counters.tweets < Decimal.greatest := by
  refine ⟨fun ⟨t, s', hrun⟩ ↦ of_createRetweet_some h hrun, fun ⟨hnot, hroom⟩ ↦ ?_⟩
  cases hrun : s.createRetweet now user target with
  | error e =>
    exact absurd (of_createRetweet_error h.toReadable huser htarget hrun) (Int.ne_of_lt hroom)
  | ok found =>
    obtain ⟨o, s'⟩ := found
    cases o with
    | some t => exact ⟨t, s', rfl⟩
    | none => exact absurd (of_createRetweet_none h hrun) hnot

/-- The tweet that a new record points at counts one more, and no other tweet is touched. -/
theorem Recorded.tweets_eq {r : StoredTweet} (hrec : s.Recorded user o.id r s')
    (h : s.CountersExact) (h' : s'.CountersExact) (ho : o ∈ s.tweets.list) :
    ∃ n, o.retweetCount = .int n ∧ s'.tweets.list = (s.tweets.list.map fun t ↦
      if t.id = o.id then { t with retweetCount := .int (n + 1) } else t) ++ [r] := by
  refine ⟨s.tweets.naming StoredTweet.retweetId o.id, h.retweets o ho, ?_⟩
  have hcount : s'.tweets.naming StoredTweet.retweetId o.id =
      s.tweets.naming StoredTweet.retweetId o.id + 1 := by
    rw [Rows.naming, Rows.naming, hrec.tweets, List.countP_append, List.countP_map,
      List.countP_singleton, if_pos (decide_eq_true hrec.original)]
    refine congrArg (· + 1) (List.countP_congr fun t _ ↦ ?_)
    dsimp only [Function.comp_apply]
    split <;> rfl
  have hraised : o.retweetCount.increment =
      .int (s.tweets.naming StoredTweet.retweetId o.id + 1 : Nat) := by
    have hmem : { o with retweetCount := o.retweetCount.increment } ∈ s'.tweets.list := by
      rw [hrec.tweets]
      exact List.mem_append_left _ (List.mem_map.2 ⟨o, ho, if_pos rfl⟩)
    exact (h'.retweets _ hmem).trans (congrArg (fun n : Nat ↦ Cell.int n) hcount)
  rw [hrec.tweets]
  refine congrArg (· ++ [r]) (List.map_congr_left fun t ht ↦ ?_)
  split
  · rename_i hid
    obtain rfl : t = o := Rows.eq_of_key_eq ht ho hid
    rw [hraised, Int.natCast_add, Int.natCast_one]
  · rfl

/-! ## When a record is taken back -/

/-- The deletion of a record leaves the other records of the same tweet as they are. -/
theorem Deletes.mem_record {t r : StoredTweet} {D : List Int} (hd : s.Deletes t D s')
    (hg : s.TweetGraph) (ht : t ∈ s.tweets.list) (htarget : t.retweetId = some target)
    (hr : r.retweetId = some target) : r ∈ s'.tweets.list ↔ r ∈ s.tweets.list ∧ r ≠ t := by
  have hplain : t.parentId = none :=
    (hg.either t ht).resolve_right fun hnone ↦ by simp [htarget] at hnone
  -- a record is not the tweet that it points at, whose counter is lowered
  have hkept : ∀ u ∈ s.tweets.list, u.retweetId = some target → t.release u = u := by
    intro u hu hutarget
    have hother : target ≠ u.id := Int.ne_of_lt (hg.original u hu target hutarget).1
    simp [StoredTweet.release, hplain, htarget, hother]
  have hgone : t.id ∈ D := (hd.doomed _).2 (.root (List.mem_singleton_self _))
  rw [hd.tweets, List.mem_map]
  constructor
  · rintro ⟨u, hu, rfl⟩
    rw [List.mem_filter, decide_eq_true_eq] at hu
    rw [hkept u hu.1 hr]
    refine ⟨hu.1, ?_⟩
    rintro rfl
    exact hu.2 hgone
  · rintro ⟨hrmem, hother⟩
    refine ⟨r, List.mem_filter.2 ⟨hrmem, decide_eq_true fun hrgone ↦ hother ?_⟩, hkept r hrmem hr⟩
    obtain ⟨-, -, -, hsurvives, -⟩ := hd.original target htarget
    exact hg.eq_root_of_refersTo ht hrmem ((hd.doomed _).1 hrgone) (.inr hr)
      fun hdoomed ↦ hsurvives ((hd.doomed _).2 hdoomed)

/-- What is so once `user` has no retweet of `o` any more. -/
structure Unretweeted (s : Store) (user : Int) (o : StoredTweet) (s' : Store) : Prop where
  /-- The tweet is still there. -/
  original : ∃ o' ∈ s'.tweets.list, o'.id = o.id ∧ o'.retweetId = none
  free : ¬s'.Retweeting (some user) o.id
  /-- The records of everybody else are what they were. -/
  others : ∀ r : StoredTweet, r.userId ≠ user → r.retweetId = some o.id →
    (r ∈ s'.tweets.list ↔ r ∈ s.tweets.list)

theorem unretweeted_of_deleteRetweet (h : s.Orderly) (ho : o ∈ s.tweets.list)
    (hnone : o.retweetId = none) {b : Bool} (hrun : s.deleteRetweet user o.id = .ok (b, s')) :
    s.Unretweeted user o s' := by
  by_cases hown : s.Retweeting (some user) o.id
  · obtain ⟨t, ht, htarget, huser⟩ := hown
    obtain rfl := Option.some.inj huser
    obtain ⟨D, hd⟩ := deletes_of_deleteRetweet h.toReadable ht htarget hrun
    have hmem {r : StoredTweet} (hr : r.retweetId = some o.id) :=
      hd.mem_record h.grounded.toTweetGraph ht htarget hr
    refine ⟨⟨t.release o, ?_, rfl, hnone⟩, ?_, fun r hruser hr ↦ ?_⟩
    · obtain ⟨_, -, -, hsurvives, -⟩ := hd.original o.id htarget
      rw [hd.tweets]
      exact List.mem_map_of_mem (List.mem_filter.2 ⟨ho, decide_eq_true hsurvives⟩)
    · rintro ⟨r, hr, hrtarget, hruser⟩
      obtain ⟨hr, hother⟩ := (hmem hrtarget).1 hr
      exact hother (h.grounded.once r hr t ht o.id hrtarget htarget (Option.some.inj hruser))
    · refine (hmem hr).trans (and_iff_left ?_)
      rintro rfl
      exact hruser rfl
  · obtain rfl := deleteRetweet_of_free hrun hown
    exact ⟨⟨o, ho, rfl, hnone⟩, hown, fun r _ _ ↦ .rfl⟩

end Store

namespace Action

variable {s : Social} {user tweet : Int} {row : StoredTweet}

/-- For somebody and a tweet who are there, the statement alone decides how a retweet goes. -/
theorem retweet_of_original (h : s.store.Orderly) (huser : s.store.users.has user = true)
    (horiginal : s.store.original? tweet = some row) :
    (∃ e, s.store.createRetweet s.now user row.id = .error e ∧
      (retweet user tweet).answer s = .error (.store e)) ∨
    (∃ store, s.store.createRetweet s.now user row.id = .ok (none, store) ∧
      (retweet user tweet).answer s = .error .alreadyRetweeted) ∨
    ∃ t store, s.store.createRetweet s.now user row.id = .ok (some t, store) ∧
      (retweet user tweet).Answers s fun i s' ↦ i.tweet.id = t.id ∧
        Social.Told ⟨row.userId, user, some row.id, .retweet⟩ { s with store } s' := by
  obtain ⟨target, hresolve, hread⟩ := answer_resolve_eq_ok h horiginal
  obtain ⟨hid, hauthor, -⟩ := Store.of_readTweet hread
  obtain ⟨hrow, hresolved⟩ := Store.of_original? horiginal
  have hactor := answer_requireActor_eq_ok h.toReadable huser
  cases hrun : s.store.createRetweet s.now user row.id with
  | error e =>
    refine .inl ⟨e, rfl, ?_⟩
    rw [retweet, answer_bind_of_ok (.requireActor _) hactor,
      answer_bind_of_ok (.resolve _) hresolve, answer_bind, hid, answer_change_of_error hrun]
    rfl
  | ok done =>
    obtain ⟨o, store⟩ := done
    have hchange : (change fun now ↦ Store.createRetweet now user row.id).Answers s _ :=
      .change hrun
    cases o with
    | none =>
      refine .inr (.inl ⟨store, rfl, ?_⟩)
      obtain ⟨_, hanswer, rfl, -⟩ := hchange
      rw [retweet, answer_bind_of_ok (.requireActor _) hactor,
        answer_bind_of_ok (.resolve _) hresolve, answer_bind, hid, hanswer]
      rfl
    | some t =>
      refine .inr (.inr ⟨t, store, rfl, ?_⟩)
      have hchecks : (requireActor user).Answers s fun _ s' ↦ s' = s :=
        ⟨(), hactor, (Looks.requireActor user).after s⟩
      have hresolves : (resolve tweet).Answers s fun t' s' ↦ t' = target ∧ s' = s :=
        ⟨target, hresolve, rfl, (Looks.resolve tweet).after s⟩
      refine hchecks.bind ?_
      rintro _ _ rfl
      refine hresolves.bind ?_
      rintro _ _ ⟨rfl, rfl⟩
      rw [hid, hauthor]
      refine hchange.bind ?_
      rintro _ _ ⟨rfl, rfl⟩
      exact Answers.tellRetweet h huser hrow hresolved hrun

end Action

/-! ## Runs -/

namespace Social

/-- Whether `user` is shown that they have retweeted a tweet. -/
def RetweetShown (s : Social) (user tweet : Int) (shown : Bool) : Prop :=
  ∃ i, (Action.getTweet tweet (some user)).answer s = .ok i ∧ i.flags.isRetweeted = shown

/-- How `user` retweets the tweet `o`, and takes that back, by way of a tweet `x`. -/
structure Retweets (s : Social) (user : Int) (o : StoredTweet) (x : Int) : Prop where
  /-- It succeeds if it is the first time, as long as there is a number for it. -/
  succeeds : (∃ i, (Action.retweet user x).answer s = .ok i) ↔
    ¬s.store.Retweeting (some user) o.id ∧ s.store.counters.tweets < Decimal.greatest
  /-- The second time is a conflict. -/
  conflict : s.store.Retweeting (some user) o.id → s.store.counters.tweets < Decimal.greatest →
    ((Action.retweet user x).answer s).mapError (·.report.kind) = .error .conflict
  /-- Where no number is left, the store has failed. -/
  full : s.store.counters.tweets = Decimal.greatest →
    ((Action.retweet user x).answer s).mapError (·.report.kind) = .error .internal
  /-- A retweet that fails changes nothing. -/
  unchanged : ∀ f, (Action.retweet user x).answer s = .error f → s.perform (.retweet user x) = s
  /-- A retweet is a new record of `user` that points at `o`, which counts one more; and all other
  tweets are as they were. -/
  made : ∀ i, (Action.retweet user x).answer s = .ok i →
    ∃ r n, r.id = i.tweet.id ∧ r.userId = user ∧ r.retweetId = some o.id ∧
      o.retweetCount = .int n ∧
      (s.perform (.retweet user x)).store.tweets.list = (s.store.tweets.list.map fun t ↦
        if t.id = o.id then { t with retweetCount := .int (n + 1) } else t) ++ [r]
  /-- Afterwards whatever stands for `o` is shown as retweeted. -/
  shown : ∀ i, (Action.retweet user x).answer s = .ok i →
    ∀ y, (s.perform (.retweet user x)).store.StandsFor y o.id →
      (s.perform (.retweet user x)).RetweetShown user y true
  /-- Once it is taken back, `user` has no retweet of `o`, nothing that stands for `o` is shown as
  retweeted, and the retweets of everybody else are what they were. -/
  undone : (Action.undoRetweet user x).answer s = .ok () →
    s.store.Unretweeted user o (s.perform (.undoRetweet user x)).store ∧
      ∀ y, (s.perform (.undoRetweet user x)).store.StandsFor y o.id →
        (s.perform (.undoRetweet user x)).RetweetShown user y false

section Retweets

variable {s : Social} {user x y : Int} {o : StoredTweet} (h : s.store.Orderly)

include h

/-- Whatever stands for a tweet is shown with the retweets of that tweet. -/
theorem retweetShown_of_standsFor (ho : o ∈ s.store.tweets.list) (hnone : o.retweetId = none)
    (hy : s.store.StandsFor y o.id) {shown : Bool}
    (hshown : shown = true ↔ s.store.Retweeting (some user) o.id) :
    s.RetweetShown user y shown := by
  obtain ⟨t, ht, rfl, htarget⟩ := hy.exists_target ho hnone
  obtain ⟨i, hi, hdisplays⟩ := Action.answer_getTweet_of_stored h.toReadable (some user) ht
  refine ⟨i, hi, Bool.eq_iff_iff.2 ?_⟩
  rw [hdisplays.isRetweeted, htarget, hshown]

variable (huser : s.store.users.has user = true) (ho : o ∈ s.store.tweets.list)
  (hnone : o.retweetId = none) (hx : s.store.StandsFor x o.id)

include huser ho hnone hx

/-- A retweet that succeeds has recorded that `user` retweets `o`. -/
theorem recorded_of_retweet {i : Item} (hi : (Action.retweet user x).answer s = .ok i) :
    ∃ t r store, s.store.createRetweet s.now user o.id = .ok (some t, store) ∧
      s.store.Recorded user o.id r store ∧ r.id = i.tweet.id ∧
      Social.Told ⟨o.userId, user, some o.id, .retweet⟩ { s with store }
        (s.perform (.retweet user x)) := by
  rcases Action.retweet_of_original h huser (hx.original?_eq ho hnone) with
    ⟨e, -, hfails⟩ | ⟨store, -, hfails⟩ | ⟨t, store, hrun, i', hi', hid, htold⟩
  · cases hi.symm.trans hfails
  · cases hi.symm.trans hfails
  obtain rfl := Except.ok.inj (hi.symm.trans hi')
  obtain ⟨r, hrec⟩ := Store.recorded_of_createRetweet h (Rows.has_iff.2 ⟨o, ho, rfl⟩) hrun
  obtain ⟨hnothing, -⟩ | ⟨_, _, ht, hnumber, -⟩ := Store.createRetweet_cases hrun
  · cases hnothing
  obtain rfl := Option.some.inj ht
  exact ⟨t, r, store, hrun, hrec, hrec.number.trans (hnumber.symm.trans hid.symm), htold⟩

theorem retweet_succeeds_iff : (∃ i, (Action.retweet user x).answer s = .ok i) ↔
    ¬s.store.Retweeting (some user) o.id ∧ s.store.counters.tweets < Decimal.greatest := by
  have htarget : s.store.tweets.has o.id = true := Rows.has_iff.2 ⟨o, ho, rfl⟩
  rw [← Store.createRetweet_eq_some_iff h huser htarget]
  constructor
  · rintro ⟨i, hi⟩
    obtain ⟨t, -, store, hrun, -⟩ := recorded_of_retweet h huser ho hnone hx hi
    exact ⟨t, store, hrun⟩
  · rintro ⟨t, store, hrun⟩
    rcases Action.retweet_of_original h huser (hx.original?_eq ho hnone) with
      ⟨e, hrun', -⟩ | ⟨store, hrun', -⟩ | ⟨_, _, -, i, hi, -⟩
    · cases hrun.symm.trans hrun'
    · cases hrun.symm.trans hrun'
    · exact ⟨i, hi⟩

theorem retweet_conflict (hown : s.store.Retweeting (some user) o.id)
    (hroom : s.store.counters.tweets < Decimal.greatest) :
    (Action.retweet user x).answer s = .error .alreadyRetweeted := by
  have htarget : s.store.tweets.has o.id = true := Rows.has_iff.2 ⟨o, ho, rfl⟩
  rcases Action.retweet_of_original h huser (hx.original?_eq ho hnone) with
    ⟨e, hrun, -⟩ | ⟨store, -, hfails⟩ | ⟨t, store, hrun, -⟩
  · have hfull := Store.of_createRetweet_error h.toReadable huser htarget hrun
    exact absurd hfull (Int.ne_of_lt hroom)
  · exact hfails
  · exact absurd hown (Store.of_createRetweet_some h hrun).1

theorem retweet_full (hfull : s.store.counters.tweets = Decimal.greatest) :
    ∃ e, (Action.retweet user x).answer s = .error (.store e) := by
  obtain ⟨e, hrun⟩ : ∃ e, s.store.createRetweet s.now user o.id = .error e :=
    Store.createRetweet_of_full h hfull user o.id
  rcases Action.retweet_of_original h huser (hx.original?_eq ho hnone) with
    ⟨e, -, hfails⟩ | ⟨_, hrun', -⟩ | ⟨_, _, hrun', -⟩
  · exact ⟨e, hfails⟩
  · cases hrun.symm.trans hrun'
  · cases hrun.symm.trans hrun'

theorem retweets_of_orderly : s.Retweets user o x where
  succeeds := retweet_succeeds_iff h huser ho hnone hx
  conflict hown hroom := by
    rw [retweet_conflict h huser ho hnone hx hown hroom]
    rfl
  full hfull := by
    obtain ⟨e, hfails⟩ := retweet_full h huser ho hnone hx hfull
    rw [hfails]
    rfl
  unchanged f hf :=
    ((Action.Ends.retweet h user x).of_failure (congrArg Except.failure? hf)).1
  made i hi := by
    obtain ⟨t, r, store, hrun, hrec, hid, htold⟩ := recorded_of_retweet h huser ho hnone hx hi
    have hchange : s.store.Change s.now store :=
      .retweet ⟨o, ho, .inl ⟨rfl, hnone⟩⟩ hrun
    obtain ⟨n, hn, hlist⟩ := hrec.tweets_eq h.exact (h.change hchange).exact ho
    exact ⟨r, n, hid, hrec.author, hrec.original, hn, htold.tweets ▸ hlist⟩
  shown i hi y hy := by
    obtain ⟨t, r, store, hrun, hrec, hid, htold⟩ := recorded_of_retweet h huser ho hnone hx hi
    have h' : (s.perform (.retweet user x)).store.Orderly :=
      (Action.Evolves.retweet user x).orderly h
    obtain ⟨o', ho', hid', hretweet⟩ := Store.tweetsStay_of_createRetweet hrun o ho
    have hown : (s.perform (.retweet user x)).store.Retweeting (some user) o'.id := by
      refine ⟨r, ?_, ?_, congrArg some hrec.author⟩
      · rw [htold.tweets]
        exact hrec.mem
      · rw [hid', hrec.original]
    refine retweetShown_of_standsFor h' ?_ (hretweet.trans hnone) (hid' ▸ hy) (iff_of_true rfl hown)
    rw [htold.tweets]
    exact ho'
  undone hi := by
    have h' : (s.perform (.undoRetweet user x)).store.Orderly :=
      (Action.Evolves.undoRetweet user x).orderly h
    rcases Action.Ends.undoRetweet h user x with ⟨f, hfails, -⟩ |
      ⟨_, -, row, b, store, horiginal, hrun, hafter⟩
    · cases hi.symm.trans hfails
    obtain rfl := Option.some.inj (horiginal.symm.trans (hx.original?_eq ho hnone))
    have hstore : (s.perform (.undoRetweet user x)).store = store := congrArg Social.store hafter
    have hundone := hstore ▸ Store.unretweeted_of_deleteRetweet h ho hnone hrun
    obtain ⟨o', ho', hid', hnone'⟩ := hundone.original
    refine ⟨hundone, fun y hy ↦ retweetShown_of_standsFor h' ho' hnone' (hid' ▸ hy) ?_⟩
    rw [hid']
    exact iff_of_false Bool.false_ne_true hundone.free

end Retweets

/-- Through whatever stands for a tweet, all accounts retweet that tweet. -/
def SharesRetweets (s : Social) : Prop :=
  ∀ user x, ∀ o ∈ s.store.tweets.list, s.store.users.has user = true → o.retweetId = none →
    s.store.StandsFor x o.id → s.Retweets user o x

/-- **In every run a tweet and its retweet records share the retweets**: whichever of them somebody
retweets, it is the tweet that is retweeted, and just once; and whichever of them is looked at, it
shows whether the viewer has retweeted the tweet. -/
theorem run_sharesRetweets (capacity : Nat) (cached : Bool) (lifetimes : Lifetimes)
    (ops : List Operation) : ((start capacity cached lifetimes).run ops).SharesRetweets :=
  fun _ _ _ ho huser hnone hx ↦
    retweets_of_orderly (run_orderly capacity cached lifetimes ops) huser ho hnone hx

-- ada retweets the record of bob, and with it her own tweet
example : ((Action.retweet 1 2).answer sampleRetweet).toOption.map (·.tweet.target) = some 1 := by
  decide +kernel

/-! ## Numbers that run out -/

/-- The account `user` could retweet a tweet: both are there, the tweet is no record, and `user` has
not retweeted it. -/
structure Retweetable (s : Social) (user tweet : Int) : Prop where
  account : s.store.users.has user = true
  original : ∃ o ∈ s.store.tweets.list, o.id = tweet ∧ o.retweetId = none
  free : ¬s.store.Retweeting (some user) tweet

section Numbers

variable {s s' : Social} {user tweet : Int}

theorem Retweetable.resembles (hfree : s.Retweetable user tweet)
    (hsame : s.store.Resembles s'.store) : s'.Retweetable user tweet := by
  obtain ⟨_, _, hs'⟩ := hsame
  constructor <;> rw [hs']
  exacts [hfree.account, hfree.original, hfree.free]

theorem counters_after_undoRetweet (h : s.store.Orderly) (user tweet : Int) :
    ((Action.undoRetweet user tweet).after s).store.counters = s.store.counters := by
  rcases Action.Ends.undoRetweet h user tweet with ⟨_, -, hafter, -⟩ |
    ⟨_, -, row, b, store, -, hrun, hafter⟩
  · rw [hafter]
  · rw [hafter]
    rcases Store.of_deleteRetweet hrun with ⟨-, rfl⟩ | ⟨-, _, -, -, -, D, -, rfl⟩ <;> rfl

/-- Whoever retweets a tweet and takes that back has used a number up, and could do it again. -/
theorem number_spent (h : s.store.Orderly) (hfree : s.Retweetable user tweet)
    (hroom : s.store.counters.tweets < Decimal.greatest) :
    ∃ ops, (s.run ops).Retweetable user tweet ∧
      (s.run ops).store.counters.tweets = s.store.counters.tweets + 1 := by
  obtain ⟨o, ho, rfl, hnone⟩ := hfree.original
  have hx : s.store.StandsFor o.id o.id := .inl rfl
  obtain ⟨i, hi⟩ := (retweet_succeeds_iff h hfree.account ho hnone hx).2 ⟨hfree.free, hroom⟩
  obtain ⟨t, r, store, -, hrec, -, htold⟩ := recorded_of_retweet h hfree.account ho hnone hx hi
  have h' : ((s.perform (.retweet user o.id)).perform (.advance 0)).store.Orderly :=
    (Action.Evolves.retweet user o.id).orderly h
  refine ⟨[.retweet user o.id, .advance 0, .undoRetweet user o.id],
    hfree.resembles (retweet_undone h user o.id 0 fun row horiginal ↦ ?_), ?_⟩
  · rw [hx.original?_eq ho hnone] at horiginal
    exact Option.some.inj horiginal ▸ hfree.free
  · calc (s.run [.retweet user o.id, .advance 0, .undoRetweet user o.id]).store.counters.tweets
        = (s.perform (.retweet user o.id)).store.counters.tweets :=
          congrArg Counters.tweets (counters_after_undoRetweet h' user o.id)
      _ = store.counters.tweets := htold.counter
      _ = s.store.counters.tweets + 1 := by rw [hrec.rest]

/-- And whoever does so time and again can use up all of them. -/
theorem exists_run_of_number (h : s.store.Orderly) (hfree : s.Retweetable user tweet) :
    ∃ ops, (s.run ops).Retweetable user tweet ∧
      (s.run ops).store.counters.tweets = Decimal.greatest := by
  have hround : ∀ s : Social, s.store.Orderly ∧ s.Retweetable user tweet →
      s.store.counters.tweets < Decimal.greatest →
        ∃ ops, ((s.run ops).store.Orderly ∧ (s.run ops).Retweetable user tweet) ∧
          (s.run ops).store.counters.tweets = s.store.counters.tweets + 1 := by
    rintro s ⟨h, hfree⟩ hroom
    obtain ⟨ops, hfree', hcounter⟩ := number_spent h hfree hroom
    exact ⟨ops, ⟨run_keeps Store.Orderly.change s ops h, hfree'⟩, hcounter⟩
  obtain ⟨ops, ⟨-, hfree'⟩, hfull⟩ := exists_run_of_rounds hround ⟨h, hfree⟩ h.grounded.tweetsFit.2
  exact ⟨ops, hfree', hfull⟩

end Numbers

/-- Ada has posted, and bob has done nothing. -/
def samplePost : Social :=
  (start 1 true ⟨0, 0⟩).run [.createUser { username := "ada", email := "ada@x.org" },
    .createUser { username := "bob", email := "bob@x.org" }, .createTweet 1 (some "hi") none]

/-- The first retweet of a tweet may be refused: when all numbers of tweets are given, the store
fails. -/
theorem retweetable_refused : ∃ ops, (samplePost.run ops).Retweetable 2 1 ∧
    ∃ e, (Action.retweet 2 1).answer (samplePost.run ops) = .error (.store e) := by
  have horiginal : samplePost.store.tweets.list.any (fun o ↦ o.id = 1 ∧ o.retweetId = none) := by
    decide +kernel
  have hfree : samplePost.Retweetable 2 1 := by
    refine ⟨by decide +kernel, ?_, ?_⟩
    · simpa only [List.any_eq_true, decide_eq_true_eq] using horiginal
    · rw [← Store.retweets?_iff]
      decide +kernel
  have h : samplePost.store.Orderly := run_orderly 1 true ⟨0, 0⟩ _
  obtain ⟨ops, hfree', hfull⟩ := exists_run_of_number h hfree
  obtain ⟨o, ho, hid, hnone⟩ := hfree'.original
  exact ⟨ops, hfree', retweet_full (run_keeps Store.Orderly.change _ ops h) hfree'.account ho hnone
    (.inl hid.symm) hfull⟩

end Social

end Microblog
