import Microblog.Proofs.Social.Accounting
import Microblog.Proofs.Store.Tagging

/-!
# Every operation keeps the index of hashtags

Only posting a tweet records hashtags, and it does so after the tweet was stored, one hashtag after
the other, where each of them may fail and the next is tried all the same.  While there are numbers
of hashtags left none of them fails, so that the tweet carries all its hashtags in the end
(`Action.indexed_after_recordTags`).

`Social.Tags` says what this comes to for an operation: an index that was exact is exact afterwards,
unless all numbers of hashtags are given by then, and the operation gives at most as many as there
are hashtags in the text that is posted.  It holds of every operation (`Social.tags_perform`), and
of every run (`Social.tags_run`).
-/

set_option autoImplicit false

namespace Microblog

open Text

/-- How many hashtags an operation records at most: those in the text that it posts. -/
def Operation.tagged : Operation → Nat
  | .createTweet _ content _ => (((tidy content).map hashtags).getD []).length
  | _ => 0

/-- How many hashtags some operations record at most. -/
def Operation.taggedBy (ops : List Operation) : Nat := (ops.map Operation.tagged).sum

namespace Action

variable {s : Social}

/-! ## Recording hashtags -/

theorem after_recordTags_cons (tweet : Int) (tag : String) (tags : List String) (s : Social) :
    (recordTags tweet (tag :: tags)).after s =
      (recordTags tweet tags).after ((recordTag tweet tag).after s) := by
  have hfirst : (recordTag tweet tag).answer s = .ok () := answer_attempt _
  rw [recordTags, after_bind, hfirst]
  rfl

/-- What links do not matter for depends on how the hashtag is added. -/
theorem part_after_recordTag {γ : Type} (part : Store → γ)
    (hlink : ∀ {tweet tag : Int} {store store' : Store} {u : Unit},
      store.linkTag tweet tag = .ok (u, store') → part store' = part store)
    (tweet : Int) (tag : String) (s : Social) :
    part ((recordTag tweet tag).after s).store =
      part ((Action.change fun now ↦ Store.addTag now tag).after s).store := by
  have hlast : ∀ id s, part ((Action.change fun _ ↦ Store.linkTag tweet id).after s).store =
      part s.store := by
    intro id s
    rcases change_error_or_ok s fun _ ↦ Store.linkTag tweet id with
      ⟨-, -, hafter⟩ | ⟨_, _, hrun, -, hafter⟩
    · rw [hafter]
    · rw [hafter]
      exact hlink hrun
  have hadd : part ((upsertTag tag).after s).store =
      part ((Action.change fun now ↦ Store.addTag now tag).after s).store :=
    part_after_bind_first s (part ·.store) fun _ s ↦ by rw [after_ask]
  rw [recordTag, after_attempt, part_after_bind_first s (part ·.store) hlast, hadd]

theorem counters_of_linkTag {tweet tag : Int} {store store' : Store} {u : Unit}
    (hrun : store.linkTag tweet tag = .ok (u, store')) : store'.counters = store.counters := by
  rcases Store.of_linkTag hrun with rfl | ⟨_, _, -, -, -, -, -, rfl⟩ <;> rfl

/-- A hashtag takes one number at most. -/
theorem counter_after_recordTag (tweet : Int) (tag : String) (s : Social) :
    s.store.counters.hashtags ≤ ((recordTag tweet tag).after s).store.counters.hashtags ∧
      ((recordTag tweet tag).after s).store.counters.hashtags ≤
        s.store.counters.hashtags + 1 := by
  rw [part_after_recordTag (·.counters) counters_of_linkTag]
  rcases change_error_or_ok s fun now ↦ Store.addTag now tag with
    ⟨-, -, hafter⟩ | ⟨_, _, hrun, -, hafter⟩
  · rw [hafter]
    omega
  · rw [hafter]
    rcases Store.of_addTag hrun with rfl | ⟨_, _, -, -, -, rfl⟩ <;> dsimp only <;> omega

theorem counter_after_recordTags (tweet : Int) (tags : List String) (s : Social) :
    s.store.counters.hashtags ≤ ((recordTags tweet tags).after s).store.counters.hashtags ∧
      ((recordTags tweet tags).after s).store.counters.hashtags ≤
        s.store.counters.hashtags + tags.length := by
  induction tags generalizing s with
  | nil => exact ⟨Int.le_refl _, Int.le_add_of_nonneg_right (Int.natCast_nonneg _)⟩
  | cons tag tags ih =>
    have hfirst := counter_after_recordTag tweet tag s
    have hrest := ih ((recordTag tweet tag).after s)
    rw [after_recordTags_cons, List.length_cons]
    omega

/-- While there are numbers left, the first hashtag that a tweet lacks is recorded. -/
theorem Answers.recordTag (h : s.store.Orderly) {tweet : Int} {tag : String} {tags : List String}
    (htweet : s.store.tweets.has tweet = true)
    (hlacks : s.store.IndexedBut (Store.lacking tweet (tag :: tags)))
    (hroom : s.store.counters.hashtags < Decimal.greatest) :
    (Action.recordTag tweet tag).Answers s fun _ s' ↦ s'.store.Orderly ∧
      s'.store.tweets.has tweet = true ∧ s'.store.IndexedBut (Store.lacking tweet tags) := by
  obtain ⟨store, hadd, hthere⟩ := h.addTag_eq_ok hroom s.now tag
  have horderly : store.Orderly := h.change (.tag hadd)
  have hstored : store.tweets.has tweet = true := by
    rcases Store.of_addTag hadd with rfl | ⟨_, _, -, -, -, rfl⟩ <;> exact htweet
  obtain ⟨row, hrow, rfl, hid⟩ := Store.exists_tagId_eq_ok hthere
  have hlacks' := hlacks.addTag hadd
  obtain ⟨l, tagLinks, htweetId, htagId, hlist, hlink⟩ := horderly.linkTag_eq_ok hstored
    (Rows.has_iff.2 ⟨row, hrow, rfl⟩) (hlacks'.not_linked hstored hrow)
  have hupsert : (upsertTag row.name).Answers s fun id s' ↦
      id = row.id ∧ s' = { s with store } := by
    refine (Answers.change hadd).bind ?_
    rintro _ _ ⟨rfl, rfl⟩
    exact ⟨row.id, (answer_ask_eq_ok_iff _).2 hid, rfl, after_ask _ _⟩
  have hdone : (do
      let id ← upsertTag row.name
      Action.change fun _ ↦ Store.linkTag tweet id : Action Unit).Answers s fun _ s' ↦
        s' = { s with store := { store with tagLinks } } := by
    refine hupsert.bind ?_
    rintro _ _ ⟨rfl, rfl⟩
    exact (Answers.change hlink).imp fun _ _ h ↦ h.2
  obtain ⟨_, -, hafter⟩ := hdone
  refine (Answers.attempt _).imp ?_
  rintro _ _ rfl
  rw [hafter]
  have hlinked : store.Change s.now { store with tagLinks } := .link hlink
  exact ⟨horderly.change hlinked, hstored, hlacks'.linkTag hrow htweetId htagId hlist⟩

/-- A tweet carries all its hashtags after they were recorded, unless all numbers are given by
then. -/
theorem indexed_after_recordTags (h : s.store.Orderly) {tweet : Int} {tags : List String}
    (htweet : s.store.tweets.has tweet = true)
    (hlacks : s.store.IndexedBut (Store.lacking tweet tags))
    (hroom : ((recordTags tweet tags).after s).store.counters.hashtags < Decimal.greatest) :
    ((recordTags tweet tags).after s).store.Indexed := by
  induction tags generalizing s with
  | nil =>
    rw [Store.lacking_nil] at hlacks
    exact hlacks
  | cons tag tags ih =>
    rw [after_recordTags_cons] at hroom ⊢
    have hfirst := counter_after_recordTag tweet tag s
    have hrest := counter_after_recordTags tweet tags ((recordTag tweet tag).after s)
    obtain ⟨_, -, horderly, hstored, hlacks'⟩ := Answers.recordTag h htweet hlacks (by omega)
    exact ih horderly hstored hlacks' hroom

end Action

namespace Social

/-- From `s` to `s'` at most `n` numbers of hashtags were given, and an index that was exact is
exact still, unless all numbers are given. -/
structure Tags (s s' : Social) (n : Nat) : Prop where
  more : s.store.counters.hashtags ≤ s'.store.counters.hashtags
  less : s'.store.counters.hashtags ≤ s.store.counters.hashtags + n
  indexed : s.store.Indexed → s'.store.counters.hashtags < Decimal.greatest → s'.store.Indexed

section Tags

variable {s s' s'' : Social} {n m : Nat}

theorem Tags.trans (h : s.Tags s' n) (h' : s'.Tags s'' m) : s.Tags s'' (n + m) where
  more := h.more.trans h'.more
  less := by
    have hless := h.less
    have hless' := h'.less
    omega
  indexed hs hroom := h'.indexed (h.indexed hs (Int.lt_of_le_of_lt h'.more hroom)) hroom

theorem Tags.of_untagged (h : s.store.Untagged s'.store) (n : Nat) : s.Tags s' n where
  more := Int.le_of_eq h.counter.symm
  less := h.counter ▸ Int.le_add_of_nonneg_right (Int.natCast_nonneg n)
  indexed hs _ := h.indexed hs

theorem Tags.of_eq (h : s' = s) (n : Nat) : s.Tags s' n := .of_untagged (h ▸ .refl _) n

/-- Telling somebody records no hashtag. -/
theorem Told.untagged {new : NewNotification} (h : s.Told new s') : s.store.Untagged s'.store := by
  cases h <;> exact .of_eq rfl rfl rfl rfl

theorem Told.now {new : NewNotification} (h : s.Told new s') : s'.now = s.now := by
  cases h <;> rfl

/-- A statement that records no hashtag, and what is told of it. -/
theorem Tags.of_told {new : NewNotification} {store : Store} {added : Bool}
    (hstore : s.store.Untagged store)
    (htold : if added then Told new { s with store } s' else s' = { s with store }) :
    s.Tags s' 0 := by
  have htold : store.Untagged s'.store := by
    split at htold
    · exact htold.untagged
    · rw [htold]
      exact .refl _
  exact .of_untagged
    ⟨htold.counter.trans hstore.counter, fun h ↦ htold.indexed (hstore.indexed h)⟩ 0

end Tags

/-! ## Operations -/

section Operations

variable {s : Social} (h : s.store.Orderly)

include h

theorem tags_createTweet (user : Int) (content : Option String) (parent : Option Int) :
    s.Tags (s.perform (.createTweet user content parent))
      (Operation.createTweet user content parent).tagged := by
  rcases Action.Ends.createTweet h user content parent with ⟨f, -, hafter, -⟩ |
    ⟨i, -, text, t, store, s₁, htext, hrun, -, htold, hs₁, hafter⟩
  · exact .of_eq hafter _
  obtain ⟨tweets, hposted, hstore⟩ := Store.of_createTweet hrun
  have hfirst : store.Untagged s₁.store ∧ s₁.store.tweets = store.tweets := by
    cases parent with
    | none =>
      obtain rfl : s₁ = { s with store } := htold
      exact ⟨.refl _, rfl⟩
    | some p =>
      obtain ⟨row, -, htold⟩ := htold
      exact ⟨htold.untagged, htold.tweets⟩
  obtain ⟨huntagged, htweets⟩ := hfirst
  have hlacks : s.store.Indexed → store.IndexedBut (Store.lacking t.id (hashtags text)) := by
    intro hindexed
    have hnew := hindexed.posted h hposted
    rw [Store.id_of_createTweet hrun, hstore]
    cases parent with
    | none => exact hnew
    | some p => exact hnew.changeReplies p _
  have hcounter : store.counters.hashtags = s.store.counters.hashtags := by
    rw [hstore]
    cases parent <;> rfl
  have hstored : s₁.store.tweets.has t.id = true := by
    rw [htweets]
    exact Store.has_of_createTweet hrun
  have hcount := Action.counter_after_recordTags t.id (hashtags text) s₁
  rw [huntagged.counter, hcounter, ← hafter] at hcount
  refine ⟨hcount.1, ?_, fun hindexed hroom ↦ ?_⟩
  · rw [Operation.tagged, htext]
    exact hcount.2
  · have hafter : s.perform (.createTweet user content parent) = _ := hafter
    rw [hafter] at hroom ⊢
    exact Action.indexed_after_recordTags hs₁ hstored
      (huntagged.indexed (hlacks hindexed)) hroom

theorem tags_retweet (user tweet : Int) : s.Tags (s.perform (.retweet user tweet)) 0 := by
  rcases Action.Ends.retweet h user tweet with ⟨f, -, hafter, -⟩ |
    ⟨i, -, row, t, store, -, hrun, -, htold⟩
  · exact .of_eq hafter 0
  have htold : Told _ _ (s.perform (.retweet user tweet)) := htold
  have huntagged := htold.untagged
  rcases Store.of_createRetweet hrun with rfl | ⟨tweets, hposted, rfl⟩
  · exact .of_untagged huntagged 0
  · refine ⟨Int.le_of_eq huntagged.counter.symm, Int.le_of_eq ?_, fun hindexed _ ↦ ?_⟩
    · rw [huntagged.counter]
      exact (Int.add_zero _).symm
    · -- a record has no text, so that it lacks nothing
      have hnew := hindexed.posted h hposted
      rw [Option.map_none, Option.getD_none, Store.lacking_nil] at hnew
      exact huntagged.indexed (hnew.changeRetweets row.id _)

theorem tags_deleteTweet (user tweet : Int) : s.Tags (s.perform (.deleteTweet user tweet)) 0 := by
  rcases Action.Ends.deleteTweet h user tweet with ⟨f, -, hafter, -⟩ |
    ⟨_, -, row, b, store, -, -, hrun, hafter⟩
  · exact .of_eq hafter 0
  · have hstore : (s.perform (.deleteTweet user tweet)).store = store :=
      congrArg Social.store hafter
    refine .of_untagged (hstore ▸ ?_) 0
    split at hrun
    · exact Store.untagged_deleteRetweet hrun
    · exact Store.untagged_deleteTweet hrun

theorem tags_undoRetweet (user tweet : Int) :
    s.Tags (s.perform (.undoRetweet user tweet)) 0 := by
  rcases Action.Ends.undoRetweet h user tweet with ⟨f, -, hafter, -⟩ |
    ⟨_, -, row, b, store, -, hrun, hafter⟩
  · exact .of_eq hafter 0
  · have hstore : (s.perform (.undoRetweet user tweet)).store = store :=
      congrArg Social.store hafter
    exact .of_untagged (hstore ▸ Store.untagged_deleteRetweet hrun) 0

theorem tags_like (user tweet : Int) : s.Tags (s.perform (.like user tweet)) 0 := by
  rcases Action.Ends.like h user tweet with ⟨f, -, hafter, -⟩ |
    ⟨_, -, row, added, store, -, hrun, htold⟩
  · exact .of_eq hafter 0
  · exact .of_told (Store.untagged_like hrun) htold

theorem tags_unlike (user tweet : Int) : s.Tags (s.perform (.unlike user tweet)) 0 := by
  rcases Action.Ends.unlike h user tweet with ⟨f, -, hafter, -⟩ | ⟨_, -, b, store, hrun, hafter⟩
  · exact .of_eq hafter 0
  · have hstore : (s.perform (.unlike user tweet)).store = store := congrArg Social.store hafter
    exact .of_untagged (hstore ▸ Store.untagged_unlike hrun) 0

theorem tags_follow (follower target : Int) : s.Tags (s.perform (.follow follower target)) 0 := by
  rcases Action.Ends.follow h follower target with ⟨f, -, hafter, -⟩ |
    ⟨added, -, store, hrun, htold⟩
  · exact .of_eq hafter 0
  · exact .of_told (Store.untagged_follow hrun) htold

theorem tags_unfollow (follower target : Int) :
    s.Tags (s.perform (.unfollow follower target)) 0 := by
  rcases Action.Ends.unfollow h follower target with ⟨f, -, hafter, -⟩ |
    ⟨_, -, b, store, hrun, hafter⟩
  · exact .of_eq hafter 0
  · have hstore : (s.perform (.unfollow follower target)).store = store :=
      congrArg Social.store hafter
    exact .of_untagged (hstore ▸ Store.untagged_unfollow hrun) 0

theorem tags_updateProfile (user : Int) (displayName bio : Option String) :
    s.Tags (s.perform (.updateProfile user displayName bio)) 0 := by
  rcases Action.Ends.updateProfile h user displayName bio with ⟨f, -, hafter, -⟩ |
    ⟨_, -, u, b, store, -, hrun, hafter⟩
  · exact .of_eq hafter 0
  · have hstore : (s.perform (.updateProfile user displayName bio)).store = store :=
      congrArg Social.store hafter
    exact .of_untagged (hstore ▸ Store.untagged_writeProfile hrun) 0

omit h in
/-- One statement that records no hashtag. -/
theorem tags_change {α : Type} {statement : Nat → Store → Except StoreError (α × Store)}
    (hstatement : ∀ {x store}, statement s.now s.store = .ok (x, store) →
      s.store.Untagged store) : s.Tags ((Action.change statement).after s) 0 := by
  rcases Action.change_error_or_ok s statement with ⟨-, -, hafter⟩ | ⟨_, _, hrun, -, hafter⟩
  · exact .of_eq hafter 0
  · exact .of_untagged (hafter ▸ hstatement hrun) 0

/-- **Every operation keeps the index of hashtags.** -/
theorem tags_perform (op : Operation) : s.Tags (s.perform op) op.tagged := by
  have hlooked : op.looks = true → s.Tags (s.perform op) op.tagged := fun hlooks ↦
    .of_eq (perform_of_looks hlooks s) _
  cases op with
  | createUser new => exact tags_change Store.untagged_createUser
  | createTweet user content parent => exact tags_createTweet h user content parent
  | deleteTweet user tweet => exact tags_deleteTweet h user tweet
  | like user tweet => exact tags_like h user tweet
  | unlike user tweet => exact tags_unlike h user tweet
  | retweet user tweet => exact tags_retweet h user tweet
  | undoRetweet user tweet => exact tags_undoRetweet h user tweet
  | follow follower target => exact tags_follow h follower target
  | unfollow follower target => exact tags_unfollow h follower target
  | updateProfile user name bio => exact tags_updateProfile h user name bio
  | markRead user => exact tags_change Store.untagged_markRead
  | globalFeed page viewer =>
    exact .of_untagged ((Action.Keeps.globalFeed page viewer).store s ▸ .refl _) 0
  | trending limit => exact .of_untagged ((Action.Keeps.trending limit).store s ▸ .refl _) 0
  | subscribe | receive | unsubscribe | drop | advance =>
    refine .of_untagged ?_ 0
    exact .refl _
  | _ => exact hlooked rfl

end Operations

/-! ## Runs -/

/-- **Every run keeps the index of hashtags.** -/
theorem tags_run {s : Social} (h : s.store.Orderly) (ops : List Operation) :
    s.Tags (s.run ops) (Operation.taggedBy ops) := by
  induction ops generalizing s with
  | nil => exact .of_eq rfl 0
  | cons op ops ih => exact (tags_perform h op).trans (ih (orderly_perform h op))

end Social

end Microblog
