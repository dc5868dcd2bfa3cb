import Microblog.Proofs.Store.Readable

/-!
# What is looked up is found

In a store that the application can read, looking accounts and tweets up by number succeeds, as long
as no more numbers are asked for than a statement may be given, and it finds every account and tweet
that is stored (`Store.Readable.usersByIds_eq_ok`, `Store.Readable.tweetsByIds_eq_ok`).
-/

set_option autoImplicit false

namespace Microblog

/-- An account can be read when its counters are integers. -/
theorem StoredUser.read_eq {u : StoredUser} {followers following : Int}
    (hfollowers : u.followersCount = .int followers)
    (hfollowing : u.followingCount = .int following) :
    ∃ user, u.read = .ok user := by
  rw [read, hfollowers, hfollowing]
  exact ⟨_, rfl⟩

namespace Store

variable {s : Store}

/-! ## Accounts -/

theorem Equipped.user?_of_mem (h : s.Equipped) {u : StoredUser} (hu : u ∈ s.users.list)
    {user : User} (hread : u.read = .ok user) : s.user? u.id = .ok (some user) := by
  rw [user?, during_eq_ok_iff, bind_eq_ok_iff]
  exact ⟨(), h.require _, mapM_eq_ok_some_iff.2 ⟨u, Rows.get?_eq_some_iff.2 ⟨hu, rfl⟩, hread⟩⟩

theorem Equipped.seenUser?_of_mem (h : s.Equipped) {u : StoredUser} (hu : u ∈ s.users.list)
    {user : User} (hread : u.read = .ok user) (viewer : Option Int) :
    s.seenUser? u.id viewer = .ok (some ⟨user, s.follows? viewer u.id⟩) := by
  have hsee : s.see viewer u = .ok ⟨user, s.follows? viewer u.id⟩ := by
    rw [see, hread]
    rfl
  rw [seenUser?, during_eq_ok_iff, bind_eq_ok_iff]
  exact ⟨(), h.require _, mapM_eq_ok_some_iff.2 ⟨u, Rows.get?_eq_some_iff.2 ⟨hu, rfl⟩, hsee⟩⟩

namespace Readable

theorem read_user (h : s.Readable) {u : StoredUser} (hu : u ∈ s.users.list) :
    ∃ user, u.read = .ok user :=
  StoredUser.read_eq (h.exact.followers u hu) (h.exact.following u hu)

/-- An account that is stored can be shown. -/
theorem see_eq_ok (h : s.Readable) (viewer : Option Int) {u : StoredUser}
    (hu : u ∈ s.users.list) : ∃ a, s.see viewer u = .ok a := by
  obtain ⟨user, hread⟩ := h.read_user hu
  rw [see, hread]
  exact ⟨_, rfl⟩

theorem user?_eq_ok (h : s.Readable) (id : Int) :
    ∃ o, s.user? id = .ok o ∧ (o.isSome = true ↔ s.users.has id = true) := by
  rw [Rows.has]
  cases hget : s.users.get? id with
  | none =>
    refine ⟨none, ?_, Iff.rfl⟩
    rw [user?, h.equipped.require, hget]
    rfl
  | some u =>
    obtain ⟨hu, rfl⟩ := Rows.get?_eq_some_iff.1 hget
    obtain ⟨user, hread⟩ := h.read_user hu
    exact ⟨some user, h.equipped.user?_of_mem hu hread, iff_of_true rfl rfl⟩

theorem seenUser?_eq_ok (h : s.Readable) {id : Int} (viewer : Option Int)
    (hid : s.users.has id = true) :
    ∃ a, s.seenUser? id viewer = .ok (some a) ∧ a.user.id = id := by
  obtain ⟨u, hu, rfl⟩ := Rows.has_iff.1 hid
  obtain ⟨user, hread⟩ := h.read_user hu
  exact ⟨_, h.equipped.seenUser?_of_mem hu hread viewer, id_of_read hread⟩

theorem seenUser?_eq_none (h : s.Readable) {id : Int} (viewer : Option Int)
    (hid : s.users.has id = false) : s.seenUser? id viewer = .ok none := by
  rw [Rows.has, Option.isSome_eq_false_iff, Option.isNone_iff_eq_none] at hid
  rw [seenUser?, h.equipped.require, hid]
  rfl

/-- Every account that is asked for and stored is found. -/
theorem usersByIds_eq_ok (h : s.Readable) {ids : List Int} (viewer : Option Int)
    (hsize : ids.length + 1 ≤ maxValues) :
    ∃ found, s.usersByIds ids viewer = .ok found ∧
      ∀ id ∈ ids, s.users.has id = true → ∃ a ∈ found, a.user.id = id := by
  rw [usersByIds]
  split
  · rename_i hempty
    exact ⟨[], rfl, fun id hid ↦ absurd (List.isEmpty_iff.1 hempty ▸ hid) List.not_mem_nil⟩
  · have hsee : ∀ u ∈ (s.users.list.filter fun u ↦ ids.contains u.id).mergeSort
        fun a b ↦ decide (a.id ≤ b.id), ∃ a, s.see viewer u = .ok a := fun u hu ↦
      h.see_eq_ok viewer (List.mem_filter.1 (List.mem_mergeSort.1 hu)).1
    obtain ⟨found, hfound⟩ := mapM_eq_ok hsee
    refine ⟨found, ?_, fun id hid hstored ↦ ?_⟩
    · simp only [during_eq_ok_iff, bind_eq_ok_iff]
      exact ⟨(), h.equipped.require _, (), demand_eq_ok_iff.2 hsize, hfound⟩
    · obtain ⟨u, hu, rfl⟩ := Rows.has_iff.1 hstored
      have hasked : u ∈ s.users.list.filter fun u ↦ ids.contains u.id :=
        List.mem_filter.2 ⟨hu, List.contains_iff_mem.2 hid⟩
      obtain ⟨a, ha, hsee⟩ := exists_mem_of_mapM hfound (List.mem_mergeSort.2 hasked)
      exact ⟨a, ha, id_of_see hsee⟩

/-! ## Tweets -/

theorem seeTweet_eq_ok (h : s.Readable) (viewer : Option Int) {t : StoredTweet}
    (ht : t ∈ s.tweets.list) : ∃ row, s.seeTweet viewer t = .ok row := by
  obtain ⟨u, hread, -⟩ := h.read_tweet ht
  exact ⟨⟨u, s.flags viewer u⟩, seeTweet_eq_ok_iff.2 ⟨hread, rfl⟩⟩

theorem tweet?_eq_ok (h : s.Readable) (id : Int) :
    ∃ o, s.tweet? id = .ok o ∧ (o.isSome = true ↔ s.tweets.has id = true) := by
  rw [tweet?, h.equipped.require, Rows.has]
  cases hget : s.tweets.get? id with
  | none => exact ⟨none, rfl, Iff.rfl⟩
  | some t =>
    obtain ⟨u, hread, -⟩ := h.read_tweet (Rows.get?_eq_some_iff.1 hget).1
    refine ⟨some u, ?_, iff_of_true rfl rfl⟩
    rw [during_eq_ok_iff, bind_eq_ok_iff]
    exact ⟨(), rfl, mapM_eq_ok_some_iff.2 ⟨t, rfl, hread⟩⟩

theorem seenTweet?_eq_ok (h : s.Readable) (viewer : Option Int) {t : StoredTweet}
    (ht : t ∈ s.tweets.list) :
    ∃ row, s.seenTweet? t.id viewer = .ok (some row) ∧ s.seeTweet viewer t = .ok row := by
  obtain ⟨row, hrow⟩ := h.seeTweet_eq_ok viewer ht
  refine ⟨row, ?_, hrow⟩
  rw [seenTweet?, during_eq_ok_iff, bind_eq_ok_iff]
  exact ⟨(), h.equipped.require _,
    mapM_eq_ok_some_iff.2 ⟨t, Rows.get?_eq_some_iff.2 ⟨ht, rfl⟩, hrow⟩⟩

theorem seenTweet?_eq_none (h : s.Readable) {id : Int} (viewer : Option Int)
    (hid : s.tweets.has id = false) : s.seenTweet? id viewer = .ok none := by
  rw [Rows.has, Option.isSome_eq_false_iff, Option.isNone_iff_eq_none] at hid
  rw [seenTweet?, requireSeen, h.equipped.require, hid]
  rfl

theorem tweetsByIds_eq_ok (h : s.Readable) {ids : List Int} (viewer : Option Int)
    (hsize : ids.length + 3 ≤ maxValues) : ∃ found, s.tweetsByIds ids viewer = .ok found := by
  rw [tweetsByIds]
  split
  · exact ⟨[], rfl⟩
  · have hsee : ∀ t ∈ (s.tweets.list.filter fun t ↦ ids.contains t.id).mergeSort
        StoredTweet.isOlder, ∃ row, s.seeTweet viewer t = .ok row := fun t ht ↦
      h.seeTweet_eq_ok viewer (List.mem_filter.1 (List.mem_mergeSort.1 ht)).1
    obtain ⟨found, hfound⟩ := mapM_eq_ok hsee
    refine ⟨found, ?_⟩
    simp only [during_eq_ok_iff, bind_eq_ok_iff]
    exact ⟨(), h.equipped.require _, (), demand_eq_ok_iff.2 hsize, hfound⟩

end Readable

end Store

end Microblog
