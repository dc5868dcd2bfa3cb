import Microblog.Proofs.Store.Seen
import Microblog.Proofs.Timeline.Hydration

/-!
# Hydration without the authors of references

The authors of the tweets that a batch refers to are asked for last, and hydration goes on when this
fails.  Then it gives what it would have given, but for references to tweets of authors who have not
written in the batch (`hydrate_degraded`).

What is known in such a run is what was answered to the first request: the authors of the batch, and
nobody else.  So the run hydrates as if there were no other accounts (`hydrate_failingSecond`).
-/

set_option autoImplicit false

namespace Microblog

/-- A loader that never fails and gives, for a viewer, exactly those rows of two tables that were
asked for. -/
structure Loader.ServesExactly {σ ε : Type} (loader : Loader (StateM σ) ε) (viewer : Option Int)
    (users : Rows SeenUser) (tweets : Rows SeenTweet) : Prop where
  users : ∀ ids s, ∃ found, ((loader.users ids viewer).run s).1 = .ok found ∧
    ∀ u, u ∈ found ↔ u ∈ users.list ∧ u.user.id ∈ ids
  tweets : ∀ ids s, ∃ found, ((loader.tweets ids viewer).run s).1 = .ok found ∧
    ∀ t, t ∈ found ↔ t ∈ tweets.list ∧ t.tweet.id ∈ ids

/-- The loader whose second request for accounts fails.  It counts these requests. -/
def Loader.failingSecond {σ ε : Type} (loader : Loader (StateM σ) ε) (e : ε) :
    Loader (StateM (σ × Nat)) ε where
  users ids viewer := fun (s, n) ↦
    if n = 1 then (.error e, s, n + 1)
    else
      let (answer, s) := (loader.users ids viewer).run s
      (answer, s, n + 1)
  tweets ids viewer := fun (s, n) ↦
    let (answer, s) := (loader.tweets ids viewer).run s
    (answer, s, n)

namespace Loader.ServesExactly

variable {σ ε : Type} {loader : Loader (StateM σ) ε} {viewer : Option Int}
  {users : Rows SeenUser} {tweets : Rows SeenTweet}

theorem serves (h : loader.ServesExactly viewer users tweets) :
    loader.Serves viewer users tweets where
  users ids s := by
    obtain ⟨found, hfound, hexact⟩ := h.users ids s
    exact ⟨found, hfound, fun u hu ↦ ((hexact u).1 hu).1, fun u hu hid ↦ (hexact u).2 ⟨hu, hid⟩⟩
  tweets ids s := by
    obtain ⟨found, hfound, hexact⟩ := h.tweets ids s
    exact ⟨found, hfound, fun t ht ↦ ((hexact t).1 ht).1, fun t ht hid ↦ (hexact t).2 ⟨ht, hid⟩⟩

end Loader.ServesExactly

theorem Loader.ofRows_servesExactly {σ ε : Type} (viewer : Option Int) (users : Rows SeenUser)
    (tweets : Rows SeenTweet) :
    (ofRows users tweets : Loader (StateM σ) ε).ServesExactly viewer users tweets where
  users _ _ := ⟨_, rfl, fun _ ↦ by rw [List.mem_filter, decide_eq_true_iff]⟩
  tweets _ _ := ⟨_, rfl, fun _ ↦ by rw [List.mem_filter, decide_eq_true_iff]⟩

namespace Hydration

variable {σ ε : Type} {users : Rows SeenUser} {tweets : Rows SeenTweet} {batch : List Tweet}

/-! ## Hydration with the authors of the batch only -/

/-- The accounts that have written in the batch. -/
def writers (users : Rows SeenUser) (batch : List Tweet) : Rows SeenUser :=
  users.keep fun u ↦ u.user.id ∈ authorIds batch

/-- Exactly the authors of the batch answer every request, where there are no other accounts. -/
theorem answers_writers {known : List SeenUser}
    (hknown : ∀ u, u ∈ known ↔ u ∈ users.list ∧ u.user.id ∈ authorIds batch) (ids : List Int) :
    (writers users batch).Answers ids known where
  stored u hu := Rows.mem_keep.2 (((hknown u).1 hu).imp_right decide_eq_true)
  complete u hu _ := (hknown u).2 ((Rows.mem_keep.1 hu).imp_right of_decide_eq_true)

theorem complete_failingSecond (loader : Loader (StateM σ) ε) (e : ε) (viewer : Option Int)
    (known : List SeenUser) (rows : List SeenTweet) (s : σ) :
    ((complete (loader.failingSecond e) viewer known rows).run (s, 1)).1 = known := by
  rw [complete]
  split
  · rfl
  · rfl

theorem hydrate_failingSecond {loader : Loader (StateM σ) ε} {viewer : Option Int}
    (h : loader.ServesExactly viewer users tweets) (e : ε) (batch : List Tweet) (s : σ) :
    ((hydrate (loader.failingSecond e) viewer batch).run (s, 0)).1 =
      oneByOne (writers users batch) tweets batch := by
  by_cases hbatch : batch = []
  · subst hbatch
    rfl
  rw [hydrate, if_neg (by simpa using hbatch)]
  obtain ⟨known, hload, hknown⟩ := h.users (authorIds batch) s
  have hwriters := answers_writers hknown
  have hfirst : ((loader.failingSecond e).users (authorIds batch) viewer).run (s, 0) =
      (.ok known, ((loader.users (authorIds batch) viewer).run s).2, 1) :=
    Prod.ext hload rfl
  rw [fst_run_bind, hfirst]
  dsimp only
  split
  · exact mapM_item_eq_of_plain ‹_› (hwriters _)
  · obtain ⟨rows, hload', hrows⟩ :=
      h.tweets (referenceIds batch) ((loader.users (authorIds batch) viewer).run s).2
    have hsecond : ((loader.failingSecond e).tweets (referenceIds batch) viewer).run
        (((loader.users (authorIds batch) viewer).run s).2, 1) = (.ok rows,
          ((loader.tweets (referenceIds batch) viewer).run
            ((loader.users (authorIds batch) viewer).run s).2).2, 1) :=
      Prod.ext hload' rfl
    rw [fst_run_bind, hsecond, fst_run_bind, complete_failingSecond]
    refine mapM_item_eq ⟨fun t ht ↦ ((hrows t).1 ht).1, fun t ht hid ↦ (hrows t).2 ⟨ht, hid⟩⟩ ?_
    exact hwriters _

/-! ## What is left out -/

/-- The tweet with a number is stored, and its author has written in the batch. -/
def writtenWithin (tweets : Rows SeenTweet) (batch : List Tweet) (id : Int) : Bool :=
  (tweets.get? id).any fun row ↦ batch.any (·.userId = row.tweet.userId)

/-- The item without references to tweets of authors who have not written in the batch. -/
def reduce (tweets : Rows SeenTweet) (batch : List Tweet) (i : Item) : Item :=
  { i with
    parentHandle :=
      if i.tweet.parentId.any (writtenWithin tweets batch) then i.parentHandle else none
    retweeted :=
      if i.tweet.retweetId.any (writtenWithin tweets batch) then i.retweeted else none }

theorem get?_writers {id : Int} : (writers users batch).get? id =
    if batch.any (·.userId = id) then users.get? id else none := by
  have hwriter : (batch.any (·.userId = id) : Bool) = decide (id ∈ authorIds batch) := by
    rw [Bool.eq_iff_iff]
    simp [authorIds, mem_ascending]
  rw [writers, Rows.get?_keep, hwriter]
  cases hget : users.get? id with
  | none => simp
  | some u =>
    obtain ⟨-, rfl⟩ := Rows.get?_eq_some_iff.1 hget
    rw [Option.filter_some]
    rfl

theorem referenceOf_writers {id : Int} : referenceOf (writers users batch) tweets id =
    if writtenWithin tweets batch id then referenceOf users tweets id else none := by
  rw [referenceOf, referenceOf, writtenWithin]
  cases tweets.get? id with
  | none => simp
  | some row =>
    rw [Option.bind_some, Option.bind_some, get?_writers, Option.any_some]
    split <;> rfl

theorem itemOf_writers {t : Tweet} (ht : t ∈ batch) : itemOf (writers users batch) tweets t =
    (itemOf users tweets t).map (reduce tweets batch) := by
  have hbind (id? : Option Int) : id?.bind (referenceOf (writers users batch) tweets) =
      if id?.any (writtenWithin tweets batch) then id?.bind (referenceOf users tweets)
      else none := by
    cases id? with
    | none => simp
    | some id => exact referenceOf_writers
  rw [itemOf, itemOf, get?_writers, if_pos (List.any_eq_true.2 ⟨t, ht, by simp⟩), Option.map_map]
  refine congrArg (Option.map · _) (funext fun author ↦ ?_)
  simp only [Function.comp_apply, reduce, hbind, apply_ite (Option.map _), Option.map_none]

theorem mapM_map {α β γ δ : Type} (f : α → Except δ β) (g : β → γ) (l : List α) :
    (l.mapM fun a ↦ (f a).map g) = (l.mapM f).map (List.map g) := by
  induction l with
  | nil => rfl
  | cons a l ih =>
    rw [List.mapM_cons, List.mapM_cons, ih]
    cases f a with
    | error e => rfl
    | ok b => cases l.mapM f <;> rfl

/-- References to tweets by authors of the batch are complete in an item. -/
structure Attached (users : Rows SeenUser) (tweets : Rows SeenTweet) (batch : List Tweet)
    (i : Item) : Prop where
  parent : ∀ id row, i.tweet.parentId = some id → tweets.get? id = some row →
    (∃ t ∈ batch, t.userId = row.tweet.userId) →
    ∃ author, users.get? row.tweet.userId = some author ∧
      i.parentHandle = some author.user.username
  original : ∀ id row, i.tweet.retweetId = some id → tweets.get? id = some row →
    (∃ t ∈ batch, t.userId = row.tweet.userId) →
    ∃ author, users.get? row.tweet.userId = some author ∧
      i.retweeted = some ⟨row.tweet, author, row.flags.isLiked, row.flags.isRetweeted⟩

theorem oneByOne_eq_ok {items : List Item}
    (h : (oneByOne users tweets batch : Except (HydrationError ε) _) = .ok items) :
    (∀ t ∈ batch, ∃ author, users.get? t.userId = some author) ∧
    ∀ i ∈ items, ∃ t ∈ batch, itemOf users tweets t = some i := by
  refine ⟨fun t ht ↦ ?_, fun i hi ↦ ?_⟩
  · obtain ⟨i, -, hitem⟩ := Store.exists_mem_of_mapM h ht
    obtain ⟨author, hauthor, -⟩ := Option.map_eq_some_iff.1 (elim_error_eq_ok_iff.1 hitem)
    exact ⟨author, hauthor⟩
  · obtain ⟨t, ht, hitem⟩ := Store.of_mem_mapM h hi
    exact ⟨t, ht, elim_error_eq_ok_iff.1 hitem⟩

theorem references_of_itemOf {t : Tweet} {i : Item} (h : itemOf users tweets t = some i) :
    i.parentHandle =
      (i.tweet.parentId.bind (referenceOf users tweets)).map (·.author.user.username) ∧
    i.retweeted = i.tweet.retweetId.bind (referenceOf users tweets) := by
  obtain ⟨author, -, rfl⟩ := Option.map_eq_some_iff.1 h
  exact ⟨rfl, rfl⟩

theorem attached_of_oneByOne {items : List Item}
    (h : (oneByOne (writers users batch) tweets batch : Except (HydrationError ε) _) = .ok items)
    {i : Item} (hi : i ∈ items) : Attached users tweets batch i := by
  obtain ⟨hauthors, hitems⟩ := oneByOne_eq_ok h
  obtain ⟨t, -, hitem⟩ := hitems i hi
  obtain ⟨hparent, hretweeted⟩ := references_of_itemOf hitem
  have href {id : Int} {row : SeenTweet} (hget : tweets.get? id = some row)
      (hwriter : ∃ t ∈ batch, t.userId = row.tweet.userId) :
      ∃ author, users.get? row.tweet.userId = some author ∧
        referenceOf (writers users batch) tweets id =
          some ⟨row.tweet, author, row.flags.isLiked, row.flags.isRetweeted⟩ := by
    obtain ⟨t, ht, hid⟩ := hwriter
    obtain ⟨author, hauthor⟩ := hauthors t ht
    rw [hid] at hauthor
    refine ⟨author, ?_, by simp [referenceOf, hget, hauthor]⟩
    obtain ⟨hstored, hkey⟩ := Rows.get?_eq_some_iff.1 hauthor
    exact Rows.get?_eq_some_iff.2 ⟨(Rows.mem_keep.1 hstored).1, hkey⟩
  refine ⟨fun id row hid hget hwriter ↦ ?_, fun id row hid hget hwriter ↦ ?_⟩
  · obtain ⟨author, hauthor, href⟩ := href hget hwriter
    exact ⟨author, hauthor, by rw [hparent, hid, Option.bind_some, href, Option.map_some]⟩
  · obtain ⟨author, hauthor, href⟩ := href hget hwriter
    exact ⟨author, hauthor, by rw [hretweeted, hid, Option.bind_some, href]⟩

/-- **Without the authors of references, hydration leaves out no more than it has to.**  When only
the second request for accounts fails, hydration gives what it gives otherwise, a failure or items,
but for references to tweets of authors who have not written in the batch. -/
theorem hydrate_degraded {loader : Loader (StateM σ) ε} {viewer : Option Int}
    (h : loader.ServesExactly viewer users tweets) (e : ε) (batch : List Tweet) (s : σ) :
    ((hydrate (loader.failingSecond e) viewer batch).run (s, 0)).1 =
      ((hydrate loader viewer batch).run s).1.map (List.map (reduce tweets batch)) ∧
    ∀ items, ((hydrate (loader.failingSecond e) viewer batch).run (s, 0)).1 = .ok items →
      ∀ i ∈ items, Attached users tweets batch i := by
  rw [hydrate_failingSecond h, hydrate_eq_oneByOne h.serves]
  refine ⟨?_, fun items hitems i hi ↦ attached_of_oneByOne hitems hi⟩
  rw [oneByOne, oneByOne, ← mapM_map]
  refine mapM_congr fun t ht ↦ ?_
  rw [itemOf_writers ht]
  cases itemOf users tweets t <;> rfl

/-- Two accounts. -/
def samplePair : Rows SeenUser :=
  ⟨[⟨⟨1, "ada", "ada@example.com", none, none, none, 0, 0, "", ""⟩, true⟩,
    ⟨⟨2, "bob", "bob@example.com", none, none, none, 0, 0, "", ""⟩, false⟩], by decide⟩

theorem hydrate_degraded_sample :
    (Loader.ofRows samplePair sampleTweets : Loader (StateM Unit) Unit).ServesExactly (some 4)
      samplePair sampleTweets ∧
    ((hydrate ((Loader.ofRows samplePair sampleTweets : Loader (StateM Unit) Unit).failingSecond ())
        (some 4) [sampleTweet 7 1 (some 5), sampleTweet 8 1 (some 6)]).run ((), 0)).1.map
          (List.map Item.parentHandle) = .ok [some "ada", none] ∧
    ((hydrate (Loader.ofRows samplePair sampleTweets : Loader (StateM Unit) Unit)
        (some 4) [sampleTweet 7 1 (some 5), sampleTweet 8 1 (some 6)]).run ()).1.map
          (List.map Item.parentHandle) = .ok [some "ada", some "bob"] := by
  have hserves : (Loader.ofRows samplePair sampleTweets : Loader (StateM Unit) Unit).ServesExactly
      (some 4) samplePair sampleTweets := Loader.ofRows_servesExactly _ _ _
  refine ⟨hserves, ?_, rfl⟩
  rw [(hydrate_degraded hserves () [sampleTweet 7 1 (some 5), sampleTweet 8 1 (some 6)] ()).1]
  rfl

end Hydration

end Microblog
