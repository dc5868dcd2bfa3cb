import Microblog.Proofs.Store.Readable

/-!
# The tweet that was just posted

A statement that adds a tweet looks it up again and answers it.  What it finds is the row that it
has added, so that the answer can always be read, and it has the next number.
-/

set_option autoImplicit false

namespace Microblog

namespace Store

variable {now : Nat} {s s' : Store} {user : Int} {content : Option String}
  {parent target : Option Int} {tweets : Rows StoredTweet}

theorem get?_posted (h : s.Posted user content parent target tweets) :
    ∃ time, tweets.get? (s.counters.tweets + 1) =
      some (s.newTweet user content parent target time) := by
  obtain ⟨time, hlist⟩ := h.list
  exact ⟨time, Rows.get?_eq_some_iff.2
    ⟨hlist ▸ List.mem_append_right _ (List.mem_singleton_self _), rfl⟩⟩

/-- A new tweet can be read, whatever was added to its counters. -/
theorem read_posted (h : s.Posted user content parent target tweets) (k : Int)
    (f : StoredTweet → StoredTweet) (hf : ∀ t, Row.key (f t) = Row.key t)
    (hread : ∀ time, ∃ t, (f (s.newTweet user content parent target time)).read = .ok t) :
    ∃ row t, (tweets.changeAt k f hf).get? (s.counters.tweets + 1) = some row ∧
      row.read = .ok t ∧ t.id = s.counters.tweets + 1 := by
  obtain ⟨time, hget⟩ := get?_posted h
  rw [Rows.get?_changeAt, hget, Option.map_some]
  split
  · obtain ⟨t, ht⟩ := hread time
    exact ⟨_, t, rfl, ht, (of_readTweet ht).1.trans (hf _)⟩
  · exact ⟨_, _, rfl, StoredTweet.read_eq rfl rfl rfl, rfl⟩

/-- What is found of a tweet that was just posted. -/
theorem id_of_fetched {tweets : Rows StoredTweet} {id : Int} {row : StoredTweet} {t : Tweet}
    (hget : tweets.get? id = some row) (hread : row.read = .ok t) : t.id = id :=
  (of_readTweet hread).1.trans (Rows.get?_eq_some_iff.1 hget).2

theorem id_of_createTweet {t : Tweet}
    (h : s.createTweet now user content parent = .ok (t, s')) : t.id = s.counters.tweets + 1 := by
  simp only [createTweet, bind_eq_ok_iff, during_eq_ok_iff, pure_eq_ok_iff, Prod.mk.injEq] at h
  obtain ⟨⟨id, s₁⟩, hinsert, _, hfetch, rfl, -⟩ := h
  obtain rfl := id_of_insertTweet parent none hinsert
  cases hget : (parent.elim s₁ fun p ↦ s₁.changeReplies p Cell.increment).tweets.get?
    (s.counters.tweets + 1) with
  | none => simp [hget] at hfetch
  | some row =>
    rw [hget] at hfetch
    exact id_of_fetched hget hfetch

/-- A tweet is retweeted, and the record is answered, or nothing happens and nothing is
answered. -/
theorem createRetweet_cases {r : Int} {o : Option Tweet}
    (h : s.createRetweet now user r = .ok (o, s')) :
    (o = none ∧ s' = s) ∨ ∃ t tweets, o = some t ∧ t.id = s.counters.tweets + 1 ∧
      s.Posted user none none (some r) tweets ∧
      s' = (s.withPosted tweets).changeRetweets r Cell.increment := by
  simp only [createRetweet, bind_eq_ok_iff, during_eq_ok_iff] at h
  obtain ⟨added, hadded, h⟩ := h
  rcases of_ignoring hadded with rfl | ⟨⟨id, s₁⟩, hinsert, rfl⟩
  · simp only [pure_eq_ok_iff, Prod.mk.injEq] at h
    exact .inl ⟨h.1.symm, h.2.symm⟩
  · simp only [bind_eq_ok_iff, during_eq_ok_iff, pure_eq_ok_iff, Prod.mk.injEq] at h
    obtain ⟨_, hfetch, rfl, rfl⟩ := h
    obtain rfl := id_of_insertTweet none (some r) hinsert
    obtain ⟨tweets, hposted, rfl⟩ := of_insertTweet none (some r) hinsert
    obtain ⟨row, t, hget, hread, hid⟩ := read_posted hposted r
      (fun t ↦ { t with retweetCount := t.retweetCount.increment }) (fun _ ↦ rfl)
      fun time ↦ ⟨_, StoredTweet.read_eq rfl rfl rfl⟩
    have hget' : ((s.withPosted tweets).changeRetweets r Cell.increment).tweets.get?
        (s.counters.tweets + 1) = some row := hget
    rw [hget', Option.mapM_some, hread] at hfetch
    exact .inr ⟨t, tweets, (Except.ok.inj hfetch).symm, hid, hposted, rfl⟩

/-! ## The tweet is there -/

theorem has_posted (h : s.Posted user content parent target tweets) :
    tweets.has (s.counters.tweets + 1) = true := by
  obtain ⟨time, hget⟩ := get?_posted h
  rw [Rows.has, hget]
  rfl

@[simp] theorem has_changeReplies (id : Int) (f : Cell → Cell) (k : Int) :
    (s.changeReplies id f).tweets.has k = s.tweets.has k := by simp [changeReplies]

@[simp] theorem has_changeRetweets (id : Int) (f : Cell → Cell) (k : Int) :
    (s.changeRetweets id f).tweets.has k = s.tweets.has k := by simp [changeRetweets]

theorem has_of_createTweet {t : Tweet}
    (h : s.createTweet now user content parent = .ok (t, s')) : s'.tweets.has t.id = true := by
  rw [id_of_createTweet h]
  obtain ⟨tweets, hposted, rfl⟩ := of_createTweet h
  cases parent with
  | none => exact has_posted hposted
  | some p => exact (has_changeReplies _ _ _).trans (has_posted hposted)

/-- A retweet takes nothing out. -/
theorem has_of_createRetweet_of_has {r k : Int} {o : Option Tweet}
    (h : s.createRetweet now user r = .ok (o, s')) (hk : s.tweets.has k = true) :
    s'.tweets.has k = true := by
  rcases of_createRetweet h with rfl | ⟨tweets, hposted, rfl⟩
  · exact hk
  · obtain ⟨time, hlist⟩ := hposted.list
    exact (has_changeRetweets _ _ _).trans (Rows.has_of_append hlist hk)

theorem has_of_createRetweet {r : Int} {t : Tweet}
    (h : s.createRetweet now user r = .ok (some t, s')) : s'.tweets.has t.id = true := by
  rcases createRetweet_cases h with ⟨hnone, -⟩ | ⟨t', tweets, ht, hid, hposted, rfl⟩
  · cases hnone
  · obtain rfl := Option.some.inj ht
    rw [hid]
    exact (has_changeRetweets _ _ _).trans (has_posted hposted)

end Store

end Microblog
