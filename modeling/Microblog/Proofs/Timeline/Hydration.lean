import Mathlib.Data.List.Forall2
import Microblog.Proofs.Store.Rows
import Microblog.Timeline.Hydration

/-!
# Hydration in one go and one by one

`hydrate` asks for all accounts and tweets that a batch needs at once.  `Hydration.itemOf` says what
the item of a single tweet is, by looking up in the tables one row after the other.  When the loader
serves from these tables, the two agree (`hydrate_eq_oneByOne`), so that the item of a tweet does
not depend on the batch in which it is hydrated.

* `Rows.Answers` is all that is asked of an answer: it consists of stored rows and holds those that
  were asked for, in any order, some of them twice or without having been asked for.
* Looking a number up in such an answer is looking it up in the table, whichever of the rows with
  that number is taken (`Rows.Answers.findRev?_eq`).  The accounts and the references of a batch are
  both of this kind.
-/

set_option autoImplicit false

namespace Microblog

/-! ## Answers of a loader -/

instance : Row SeenUser Int := ⟨(·.user.id)⟩

instance : Row SeenTweet Int := ⟨(·.tweet.id)⟩

namespace Rows

variable {α κ : Type} [Row α κ]

/-- The rows found are stored, and those with the keys that were asked for are all among them. -/
structure Answers (rows : Rows α) (keys : List κ) (found : List α) : Prop where
  stored : ∀ a ∈ found, a ∈ rows.list
  complete : ∀ a ∈ rows.list, Row.key a ∈ keys → a ∈ found

namespace Answers

variable {rows : Rows α} {keys keys' : List κ} {found found' : List α}

theorem append (h : rows.Answers keys found) (h' : rows.Answers keys' found') :
    rows.Answers (keys ++ keys') (found ++ found') where
  stored a ha := (List.mem_append.1 ha).elim (h.stored a) (h'.stored a)
  complete a ha hk := List.mem_append.2
    ((List.mem_append.1 hk).imp (h.complete a ha) (h'.complete a ha))

theorem of_subset (h : rows.Answers keys found) (hkeys : keys' ⊆ keys) :
    rows.Answers keys' found :=
  ⟨h.stored, fun a ha hk ↦ h.complete a ha (hkeys hk)⟩

variable [DecidableEq κ] {k : κ}

/-- The last row with a key in an answer is the one that the table has. -/
theorem findRev?_eq (h : rows.Answers keys found) (hk : k ∈ keys) :
    (found.findRev? fun a ↦ Row.key a = k) = rows.get? k := by
  rw [List.findRev?_eq_find?_reverse]
  cases hfind : found.reverse.find? fun a ↦ Row.key a = k with
  | some a =>
    have hmem : a ∈ found := List.mem_reverse.1 (List.mem_of_find?_eq_some hfind)
    have hkey : Row.key a = k := by simpa using List.find?_some hfind
    exact (get?_eq_some_iff.2 ⟨h.stored a hmem, hkey⟩).symm
  | none =>
    cases hget : rows.get? k with
    | none => rfl
    | some a =>
      obtain ⟨hmem, rfl⟩ := get?_eq_some_iff.1 hget
      have ha := List.mem_reverse.2 (h.complete a hmem hk)
      exact absurd (List.find?_eq_none.1 hfind a ha) (by simp)

/-- An answer also answers for the keys that it happens to have. -/
theorem of_isSome (h : rows.Answers keys found)
    (hkeys : ∀ k ∈ keys', k ∈ keys ∨ (found.findRev? fun a ↦ Row.key a = k).isSome = true) :
    rows.Answers keys' found := by
  refine ⟨h.stored, fun a ha hk ↦ ?_⟩
  rcases hkeys _ hk with hk | hfound
  · exact h.complete a ha hk
  · obtain ⟨b, hb⟩ := Option.isSome_iff_exists.1 hfound
    rw [List.findRev?_eq_find?_reverse] at hb
    have hmem : b ∈ found := List.mem_reverse.1 (List.mem_of_find?_eq_some hb)
    have hkey : Row.key b = Row.key a := by simpa using List.find?_some hb
    exact eq_of_key_eq (h.stored b hmem) ha hkey ▸ hmem

end Answers

end Rows

/-- A loader that never fails and serves, for a viewer, the rows of two tables. -/
structure Loader.Serves {σ ε : Type} (loader : Loader (StateM σ) ε) (viewer : Option Int)
    (users : Rows SeenUser) (tweets : Rows SeenTweet) : Prop where
  users : ∀ ids s, ∃ found, ((loader.users ids viewer).run s).1 = .ok found ∧
    users.Answers ids found
  tweets : ∀ ids s, ∃ found, ((loader.tweets ids viewer).run s).1 = .ok found ∧
    tweets.Answers ids found

/-- The loader that looks up in two tables, and gives the rows in their order. -/
def Loader.ofRows {σ ε : Type} (users : Rows SeenUser) (tweets : Rows SeenTweet) :
    Loader (StateM σ) ε where
  users ids _ := pure (.ok (users.list.filter (·.user.id ∈ ids)))
  tweets ids _ := pure (.ok (tweets.list.filter (·.tweet.id ∈ ids)))

theorem Loader.ofRows_serves {σ ε : Type} (viewer : Option Int) (users : Rows SeenUser)
    (tweets : Rows SeenTweet) : (ofRows users tweets : Loader (StateM σ) ε).Serves viewer users
      tweets where
  users _ _ := ⟨_, rfl, fun _ hu ↦ (List.mem_filter.1 hu).1, fun _ hu hid ↦
    List.mem_filter.2 ⟨hu, decide_eq_true hid⟩⟩
  tweets _ _ := ⟨_, rfl, fun _ ht ↦ (List.mem_filter.1 ht).1, fun _ ht hid ↦
    List.mem_filter.2 ⟨ht, decide_eq_true hid⟩⟩

/-! ## Ascending numbers -/

theorem mem_insertAscending {m n : Int} {ns : List Int} :
    m ∈ insertAscending n ns ↔ m = n ∨ m ∈ ns := by
  induction ns with
  | nil => simp [insertAscending]
  | cons k ks ih =>
    rw [insertAscending]
    split
    · exact List.mem_cons
    · split
      · rename_i _ hnk
        rw [List.mem_cons, hnk, or_self_left]
      · rw [List.mem_cons, ih, List.mem_cons, or_left_comm]

theorem mem_ascending {n : Int} {ns : List Int} : n ∈ ascending ns ↔ n ∈ ns := by
  induction ns with
  | nil => rfl
  | cons m ms ih =>
    rw [ascending, List.foldr_cons, mem_insertAscending, List.mem_cons]
    exact or_congr_right ih

namespace Hydration

/-! ## One tweet at a time -/

section OneByOne

variable (users : Rows SeenUser) (tweets : Rows SeenTweet)

/-- The stored tweet with a number, with its author, if both are stored. -/
def referenceOf (id : Int) : Option Reference :=
  (tweets.get? id).bind fun row ↦ (users.get? row.tweet.userId).map fun author ↦
    ⟨row.tweet, author, row.flags.isLiked, row.flags.isRetweeted⟩

/-- The item of a tweet, if its author is stored. -/
def itemOf (t : Tweet) : Option Item :=
  (users.get? t.userId).map fun author ↦ {
    tweet := t
    author
    flags := .none
    parentHandle := (t.parentId.bind (referenceOf users tweets)).map (·.author.user.username)
    retweeted := t.retweetId.bind (referenceOf users tweets) }

/-- The items of a batch one after the other, up to the first tweet without an author. -/
def oneByOne {ε : Type} (batch : List Tweet) : Except (HydrationError ε) (List Item) :=
  batch.mapM fun t ↦ (itemOf users tweets t).elim (.error (.noAuthor t.userId t.id)) .ok

/-- The first tweet of a batch whose author is not stored. -/
def firstWithoutAuthor (batch : List Tweet) : Option Tweet :=
  batch.find? fun t ↦ !users.has t.userId

end OneByOne

variable {ε : Type} {users : Rows SeenUser} {tweets : Rows SeenTweet}

theorem itemOf_eq_none_iff {t : Tweet} :
    itemOf users tweets t = none ↔ users.has t.userId = false := by
  rw [itemOf, Option.map_eq_none_iff, Rows.has, Option.isSome_eq_false_iff,
    Option.isNone_iff_eq_none]

theorem oneByOne_of_some {batch : List Tweet} {t : Tweet}
    (h : firstWithoutAuthor users batch = some t) :
    (oneByOne users tweets batch : Except (HydrationError ε) _) =
      .error (.noAuthor t.userId t.id) := by
  induction batch with
  | nil => simp [firstWithoutAuthor] at h
  | cons u us ih =>
    rw [firstWithoutAuthor, List.find?_cons] at h
    rw [oneByOne, List.mapM_cons]
    cases hu : users.has u.userId with
    | false =>
      rw [hu] at h
      obtain rfl := Option.some.inj h
      rw [itemOf_eq_none_iff.2 hu]
      rfl
    | true =>
      rw [hu] at h
      cases hitem : itemOf users tweets u with
      | none => rw [itemOf_eq_none_iff.1 hitem] at hu; exact absurd hu Bool.false_ne_true
      | some item =>
        have htail := ih h
        rw [oneByOne] at htail
        rw [htail]
        rfl

theorem oneByOne_of_none {batch : List Tweet} (h : firstWithoutAuthor users batch = none) :
    ∃ items, (oneByOne users tweets batch : Except (HydrationError ε) _) = .ok items ∧
      List.Forall₂ (fun t item ↦ itemOf users tweets t = some item) batch items := by
  induction batch with
  | nil => exact ⟨[], rfl, .nil⟩
  | cons u us ih =>
    rw [firstWithoutAuthor, List.find?_cons] at h
    cases hu : users.has u.userId with
    | false => simp [hu] at h
    | true =>
      rw [hu] at h
      obtain ⟨items, htail, hitems⟩ := ih h
      cases hitem : itemOf users tweets u with
      | none => rw [itemOf_eq_none_iff.1 hitem] at hu; exact absurd hu Bool.false_ne_true
      | some item =>
        refine ⟨item :: items, ?_, .cons hitem hitems⟩
        rw [oneByOne] at htail
        rw [oneByOne, List.mapM_cons, htail, hitem]
        rfl

theorem oneByOne_append {xs ys : List Tweet} {items items' : List Item}
    (hxs : (oneByOne users tweets xs : Except (HydrationError ε) _) = .ok items)
    (hys : (oneByOne users tweets ys : Except (HydrationError ε) _) = .ok items') :
    (oneByOne users tweets (xs ++ ys) : Except (HydrationError ε) _) = .ok (items ++ items') := by
  rw [oneByOne] at hxs hys ⊢
  rw [List.mapM_append, hxs, hys]
  rfl

/-! ## What was loaded is enough -/

theorem author?_eq {known : List SeenUser} {ids : List Int} (h : users.Answers ids known) {id : Int}
    (hid : id ∈ ids) : author? known id = users.get? id :=
  h.findRev?_eq hid

theorem mem_authorIds {batch : List Tweet} {t : Tweet} (ht : t ∈ batch) :
    t.userId ∈ authorIds batch :=
  mem_ascending.2 (List.mem_map_of_mem ht)

theorem mem_referenceIds {batch : List Tweet} {t : Tweet} (ht : t ∈ batch) {id : Int}
    (hid : t.parentId = some id ∨ t.retweetId = some id) : id ∈ referenceIds batch := by
  refine mem_ascending.2 (List.mem_flatMap.2 ⟨t, ht, ?_⟩)
  rcases hid with hid | hid <;> simp [hid]

theorem tweet_of_reference? {known : List SeenUser} {row : SeenTweet} {r : Reference}
    (h : reference? known row = some r) : r.tweet = row.tweet := by
  obtain ⟨author, -, rfl⟩ := Option.map_eq_some_iff.1 h
  rfl

section References

variable {known : List SeenUser} {rows : List SeenTweet} {ids authors : List Int}
  (hrows : tweets.Answers ids rows) (hknown : users.Answers authors known)
  (hauthors : ∀ row ∈ rows, row.tweet.userId ∈ authors)

include hrows hknown hauthors

/-- A row as a reference is what the tables say of its number, once its author is known. -/
theorem reference?_eq {row : SeenTweet} (hrow : row ∈ rows) :
    reference? known row = referenceOf users tweets row.tweet.id := by
  have hget : tweets.get? row.tweet.id = some row :=
    Rows.get?_eq_some_iff.2 ⟨hrows.stored row hrow, rfl⟩
  rw [reference?, author?_eq hknown (hauthors row hrow), referenceOf, hget, Option.bind_some]

theorem find?_eq {id : Int} (hid : id ∈ ids) :
    find? (rows.filterMap (reference? known)) id = referenceOf users tweets id := by
  rw [find?, List.findRev?_eq_find?_reverse]
  cases hfind : (rows.filterMap (reference? known)).reverse.find? (·.tweet.id = id) with
  | some r =>
    have hr := List.mem_reverse.1 (List.mem_of_find?_eq_some hfind)
    obtain ⟨row, hrow, href⟩ := List.mem_filterMap.1 hr
    have hkey : r.tweet.id = id := by simpa using List.find?_some hfind
    rw [← hkey, tweet_of_reference? href, ← reference?_eq hrows hknown hauthors hrow, href]
  | none =>
    cases href : referenceOf users tweets id with
    | none => rfl
    | some r =>
      -- a stored tweet with a stored author would have been among the references
      obtain ⟨row, hget, -⟩ := Option.bind_eq_some_iff.1 href
      obtain ⟨hstored, rfl⟩ := Rows.get?_eq_some_iff.1 hget
      have hrow := hrows.complete row hstored hid
      have hrow' := (reference?_eq hrows hknown hauthors hrow).trans href
      have hr := List.mem_reverse.2 (List.mem_filterMap.2 ⟨row, hrow, hrow'⟩)
      refine absurd (List.find?_eq_none.1 hfind r hr) ?_
      rw [tweet_of_reference? hrow']
      simp [Row.key]

end References

/-- An item depends on what is known of the author and of what the tweet refers to. -/
theorem item_eq {known : List SeenUser} {references : List Reference} {t : Tweet}
    (hauthor : author? known t.userId = users.get? t.userId)
    (hrefs : ∀ id, t.parentId = some id ∨ t.retweetId = some id →
      find? references id = referenceOf users tweets id) :
    (item known references t : Except (HydrationError ε) Item) =
      (itemOf users tweets t).elim (.error (.noAuthor t.userId t.id)) .ok := by
  have hparent : t.parentId.bind (find? references) =
      t.parentId.bind (referenceOf users tweets) := by
    cases hp : t.parentId with
    | none => rfl
    | some p => exact hrefs p (.inl hp)
  have hretweet : t.retweetId.bind (find? references) =
      t.retweetId.bind (referenceOf users tweets) := by
    cases hr : t.retweetId with
    | none => rfl
    | some r => exact hrefs r (.inr hr)
  rw [item, itemOf, hauthor, hparent, hretweet]
  cases users.get? t.userId <;> rfl

theorem mapM_congr {α β δ : Type} {f g : α → Except δ β} {l : List α}
    (h : ∀ a ∈ l, f a = g a) : l.mapM f = l.mapM g := by
  induction l with
  | nil => rfl
  | cons a l ih =>
    rw [List.mapM_cons, List.mapM_cons, h a List.mem_cons_self,
      ih fun b hb ↦ h b (List.mem_cons_of_mem _ hb)]

/-! ## The whole batch -/

/-- Where nothing is referred to, the authors of the batch are enough. -/
theorem mapM_item_eq_of_plain {batch : List Tweet} {known : List SeenUser}
    (hrefs : referenceIds batch = []) (hknown : users.Answers (authorIds batch) known) :
    batch.mapM (item known []) =
      (oneByOne users tweets batch : Except (HydrationError ε) (List Item)) := by
  refine mapM_congr fun t ht ↦ item_eq (author?_eq hknown (mem_authorIds ht)) fun id hid ↦ ?_
  have hmem := mem_referenceIds ht hid
  simp [hrefs] at hmem

/-- The items of a batch, once the authors of what it refers to are known, too. -/
theorem mapM_item_eq {batch : List Tweet} {known : List SeenUser} {rows : List SeenTweet}
    (hrows : tweets.Answers (referenceIds batch) rows)
    (hknown : users.Answers (authorIds batch ++ rows.map (·.tweet.userId)) known) :
    batch.mapM (item known (rows.filterMap (reference? known))) =
      (oneByOne users tweets batch : Except (HydrationError ε) (List Item)) := by
  refine mapM_congr fun t ht ↦ item_eq (author?_eq hknown ?_) fun id hid ↦ ?_
  · exact List.mem_append_left _ (mem_authorIds ht)
  · refine find?_eq hrows hknown (fun row hrow ↦ ?_) (mem_referenceIds ht hid)
    exact List.mem_append_right _ (List.mem_map_of_mem hrow)

theorem fst_run_bind {σ α β : Type} (x : StateM σ α) (f : α → StateM σ β) (s : σ) :
    ((x >>= f).run s).1 = ((f (x.run s).1).run (x.run s).2).1 :=
  rfl

/-- The author of a row is known already, or is asked for. -/
theorem mem_missingIds {known : List SeenUser} {rows : List SeenTweet} {row : SeenTweet}
    (hrow : row ∈ rows) : (author? known row.tweet.userId).isSome = true ∨
      row.tweet.userId ∈ missingIds known rows := by
  rw [missingIds, mem_ascending, List.mem_filter]
  cases author? known row.tweet.userId with
  | none => exact .inr ⟨List.mem_map_of_mem hrow, rfl⟩
  | some _ => exact .inl rfl

section Whole

variable {σ : Type} {loader : Loader (StateM σ) ε} {viewer : Option Int}
  (h : loader.Serves viewer users tweets)

include h

/-- What is known in the end answers for the authors of the references, too. -/
theorem complete_answers {known : List SeenUser} {ids : List Int} (hknown : users.Answers ids known)
    (rows : List SeenTweet) (s : σ) :
    users.Answers (ids ++ rows.map (·.tweet.userId))
      ((complete loader viewer known rows).run s).1 := by
  have hmissing : ∀ id ∈ rows.map (·.tweet.userId),
      (author? known id).isSome = true ∨ id ∈ missingIds known rows := fun id hid ↦ by
    obtain ⟨row, hrow, rfl⟩ := List.mem_map.1 hid
    exact mem_missingIds hrow
  rw [complete]
  split
  · rename_i hnone
    refine hknown.of_isSome fun id hid ↦ (List.mem_append.1 hid).imp_right fun hid ↦ ?_
    exact (hmissing id hid).resolve_right fun hmem ↦ by simp [hnone] at hmem
  · obtain ⟨found, hfound, hanswers⟩ := h.users (missingIds known rows) s
    rw [fst_run_bind, hfound]
    show users.Answers _ (known ++ found)
    -- the authors that are not asked for are known by chance
    let present := (rows.map (·.tweet.userId)).filter fun id ↦ (author? known id).isSome
    have hpresent : users.Answers (ids ++ present) known := by
      refine hknown.of_isSome fun id hid ↦ (List.mem_append.1 hid).imp_right fun hid ↦ ?_
      exact (List.mem_filter.1 hid).2
    refine (hpresent.append hanswers).of_subset fun id hid ↦ ?_
    rcases List.mem_append.1 hid with hid | hid
    · exact List.mem_append_left _ (List.mem_append_left _ hid)
    · rcases hmissing id hid with hsome | hmem
      · exact List.mem_append_left _ (List.mem_append_right _ (List.mem_filter.2 ⟨hid, hsome⟩))
      · exact List.mem_append_right _ hmem

/-- **Hydrating a batch in one go gives what its tweets give one by one.** -/
theorem hydrate_eq_oneByOne (batch : List Tweet) (s : σ) :
    ((hydrate loader viewer batch).run s).1 = oneByOne users tweets batch := by
  cases hb : batch with
  | nil => rfl
  | cons t ts =>
    rw [← hb, hydrate, if_neg (by simp [hb])]
    obtain ⟨known, hload, hknown⟩ := h.users (authorIds batch) s
    rw [fst_run_bind, hload]
    dsimp only
    split
    · exact mapM_item_eq_of_plain ‹_› hknown
    · obtain ⟨rows, hload', hrows⟩ :=
        h.tweets (referenceIds batch) ((loader.users (authorIds batch) viewer).run s).2
      rw [fst_run_bind, hload', fst_run_bind]
      exact mapM_item_eq hrows (complete_answers h hknown rows
        ((loader.tweets (referenceIds batch) viewer).run
          ((loader.users (authorIds batch) viewer).run s).2).2)

/-- **Hydration in one go refines hydration one by one.**  It fails for the first tweet without an
author, if there is one.  Otherwise it gives the item of each tweet in order, whatever else is in
the batch, so that two batches that succeed can be hydrated as one. -/
theorem hydrate_refines :
    (∀ batch s t, firstWithoutAuthor users batch = some t →
      ((hydrate loader viewer batch).run s).1 = .error (.noAuthor t.userId t.id)) ∧
    (∀ batch s, firstWithoutAuthor users batch = none → ∃ items,
      ((hydrate loader viewer batch).run s).1 = .ok items ∧
      List.Forall₂ (fun t item ↦ itemOf users tweets t = some item) batch items) ∧
    ∀ xs ys s s' s'' items items', ((hydrate loader viewer xs).run s).1 = .ok items →
      ((hydrate loader viewer ys).run s').1 = .ok items' →
      ((hydrate loader viewer (xs ++ ys)).run s'').1 = .ok (items ++ items') := by
  refine ⟨fun batch s t ht ↦ ?_, fun batch s hnone ↦ ?_,
    fun xs ys s s' s'' items items' hxs hys ↦ ?_⟩
  · rw [hydrate_eq_oneByOne h]
    exact oneByOne_of_some ht
  · rw [hydrate_eq_oneByOne h]
    exact oneByOne_of_none hnone
  · rw [hydrate_eq_oneByOne h] at hxs hys ⊢
    exact oneByOne_append hxs hys

end Whole

/-- A single stored account. -/
def sampleUsers : Rows SeenUser :=
  ⟨[⟨⟨1, "ada", "ada@example.com", none, none, none, 0, 0, "", ""⟩, true⟩], by decide⟩

/-- A tweet, which may answer another one. -/
def sampleTweet (id user : Int) (parent : Option Int) : Tweet :=
  ⟨id, user, some "hello", none, none, parent, none, 0, 0, 0, "", ""⟩

/-- A tweet of the account, and one whose author is not stored. -/
def sampleTweets : Rows SeenTweet :=
  ⟨[⟨sampleTweet 5 1 none, ⟨true, false, true⟩⟩, ⟨sampleTweet 6 2 none, .none⟩], by decide⟩

theorem hydrate_refines_sample :
    (Loader.ofRows sampleUsers sampleTweets : Loader (StateM Unit) Unit).Serves (some 4) sampleUsers
      sampleTweets ∧
    ((hydrate (Loader.ofRows sampleUsers sampleTweets : Loader (StateM Unit) Unit) (some 4)
      [sampleTweet 7 1 (some 5), sampleTweet 8 2 (some 6), sampleTweet 9 3 none]).run ()).1 =
        .error (.noAuthor 2 8) ∧
    ∃ items, ((hydrate (Loader.ofRows sampleUsers sampleTweets : Loader (StateM Unit) Unit) (some 4)
      [sampleTweet 7 1 (some 5), sampleTweet 7 1 (some 6)]).run ()).1 = .ok items ∧
      items.map Item.parentHandle = [some "ada", none] := by
  have hserves : (Loader.ofRows sampleUsers sampleTweets : Loader (StateM Unit) Unit).Serves
      (some 4) sampleUsers sampleTweets := Loader.ofRows_serves _ _ _
  refine ⟨hserves, (hydrate_refines hserves).1 _ () (sampleTweet 8 2 (some 6)) rfl, ?_⟩
  obtain ⟨items, hitems, hall⟩ := (hydrate_refines hserves).2.1
    [sampleTweet 7 1 (some 5), sampleTweet 7 1 (some 6)] () rfl
  refine ⟨items, hitems, ?_⟩
  cases hall with
  | cons h₁ hall => cases hall with
    | cons h₂ hall => cases hall; cases h₁; cases h₂; rfl

end Hydration

end Microblog
