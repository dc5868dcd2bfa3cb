import Microblog.Proofs.Social.Liking
import Microblog.Proofs.Social.Naming

/-!
# Numbers of hashtags that are used up

Every hashtag that is recorded takes a number, also one that is known.  So whoever posts a text
takes a number for the tweet and one for each hashtag in it (`Social.posts_createTweet`), and
whoever posts it `n` times takes `n` times as many (`Social.posts`), as long as there are any left.

So all of them can be used up (`Social.exists_usedUp`).  When there is none left, no hashtag is
added any more: a tweet with a new one is stored, but the hashtag is not
(`Social.untagged_of_full`).
-/

set_option autoImplicit false

namespace Microblog

open Text

namespace Action

variable {s : Social}

/-- While there are numbers left, a hashtag takes one, also if it is known. -/
theorem counters_after_recordTag (h : s.store.Orderly)
    (hroom : s.store.counters.hashtags < Decimal.greatest) (tweet : Int) (tag : String) :
    ((recordTag tweet tag).after s).store.counters =
      { s.store.counters with hashtags := s.store.counters.hashtags + 1 } := by
  obtain ⟨store, hadd, -⟩ := h.addTag_eq_ok hroom s.now tag
  have hchange : (change fun now ↦ Store.addTag now tag).Answers s _ := .change hadd
  obtain ⟨_, -, -, hafter⟩ := hchange
  rw [part_after_recordTag (·.counters) counters_of_linkTag, hafter]
  rcases Store.of_addTag hadd with rfl | ⟨_, _, -, -, -, rfl⟩ <;> rfl

theorem counters_after_recordTags (h : s.store.Orderly) {tags : List String}
    (hleft : s.store.counters.hashtags + tags.length ≤ Decimal.greatest) (tweet : Int) :
    ((recordTags tweet tags).after s).store.counters =
      { s.store.counters with hashtags := s.store.counters.hashtags + tags.length } := by
  induction tags generalizing s with
  | nil => rw [List.length_nil, Nat.cast_zero, Int.add_zero]; rfl
  | cons tag tags ih =>
    rw [List.length_cons, Nat.cast_succ] at hleft ⊢
    have hfirst := counters_after_recordTag h (by omega) tweet tag
    have hevolves : (recordTag tweet tag).Evolves s := .recordTag tweet tag
    have hsum : s.store.counters.hashtags + 1 + tags.length =
        s.store.counters.hashtags + (tags.length + 1) := by omega
    rw [after_recordTags_cons, ih (hevolves.orderly h), hfirst, ← hsum]
    rw [hfirst]
    exact hsum.trans_le hleft

end Action

namespace Social

/-- From `s` to `s'`, which are at the same time, `n` tweets and `m` hashtags were given numbers. -/
structure Posts (s s' : Social) (n m : Nat) : Prop where
  now : s'.now = s.now
  cache : s'.cache = s.cache
  changes : Store.Changes s.now s.store s'.store
  counters : s'.store.counters = { s.store.counters with
    tweets := s.store.counters.tweets + n
    hashtags := s.store.counters.hashtags + m }

theorem Posts.trans {s s' s'' : Social} {n m n' m' : Nat} (h : s.Posts s' n m)
    (h' : s'.Posts s'' n' m') : s.Posts s'' (n + n') (m + m') where
  now := h'.now.trans h.now
  cache := h'.cache.trans h.cache
  changes := h.changes.trans (h.now ▸ h'.changes)
  counters := by
    rw [h'.counters, h.counters, Nat.cast_add, Nat.cast_add, ← Int.add_assoc, ← Int.add_assoc]

section Numbers

variable {s : Social} {user : Int} {content : Option String} {text : String}

/-- Once the tweet is stored, posting goes on to record its hashtags. -/
theorem answers_createTweet (h : s.store.Orderly) (huser : s.store.users.has user = true)
    (htext : tidy content = some text) {t : Tweet} {store : Store}
    (hrun : s.store.createTweet s.now user (some text) none = .ok (t, store)) :
    (Action.createTweet user content none).Answers s fun _ s' ↦
      s' = (Action.recordTags t.id (hashtags text)).after { s with store } := by
  have hstored : store.Orderly := h.change (.post (by simp) hrun)
  have htidy : (Action.orFail .noText (tidy content)).Answers s fun x s' ↦ x = text ∧ s' = s := by
    rw [htext]
    exact ⟨text, rfl, rfl, rfl⟩
  have hactor : (Action.requireActor user).Answers s fun _ s' ↦ s' = s :=
    ⟨(), Action.answer_requireActor_eq_ok h.toReadable huser,
      (Action.Looks.requireActor user).after s⟩
  have hnone : (pure none : Action (Option Tweet)).Answers s fun x s' ↦ x = none ∧ s' = s :=
    .pure none ⟨rfl, rfl⟩
  have hchange : (Action.change fun now ↦ Store.createTweet now user (some text) none).Answers s
    fun x s' ↦ x = t ∧ s' = { s with store } := .change hrun
  refine htidy.bind ?_
  rintro _ _ ⟨rfl, rfl⟩
  refine hactor.bind ?_
  rintro _ _ rfl
  refine hnone.bind ?_
  rintro _ _ ⟨rfl, rfl⟩
  refine hchange.bind ?_
  rintro _ _ ⟨rfl, rfl⟩
  exact (Action.Answers.recordPost hstored (Store.has_of_createTweet hrun) _ _).imp
    fun _ _ ↦ And.right

/-- Posting a tweet stores it and records its hashtags, while there is a number for it. -/
theorem perform_createTweet (h : s.store.Orderly) (huser : s.store.users.has user = true)
    (hroom : s.store.counters.tweets < Decimal.greatest) (htext : tidy content = some text) :
    ∃ t store, s.store.createTweet s.now user (some text) none = .ok (t, store) ∧
      s.perform (.createTweet user content none) =
        (Action.recordTags t.id (hashtags text)).after { s with store } := by
  cases hrun : s.store.createTweet s.now user (some text) none with
  | error e =>
    exact absurd (Store.of_createTweet_error h.toReadable huser (by simp) hrun)
      (Int.ne_of_lt hroom)
  | ok found =>
    obtain ⟨t, store⟩ := found
    obtain ⟨_, -, hafter⟩ := answers_createTweet h huser htext hrun
    exact ⟨t, store, rfl, hafter⟩

/-- Then there is a tweet with that text. -/
theorem exists_posted (h : s.store.Orderly) (huser : s.store.users.has user = true)
    (hroom : s.store.counters.tweets < Decimal.greatest) (htext : tidy content = some text) :
    ∃ t ∈ (s.perform (.createTweet user content none)).store.tweets.list,
      t.hashtags = hashtags text := by
  obtain ⟨t, store, hrun, hafter⟩ := perform_createTweet h huser hroom htext
  obtain ⟨tweets, hposted, hstore⟩ := Store.of_createTweet hrun
  obtain ⟨time, hlist⟩ := hposted.list
  have htweets : (s.perform (.createTweet user content none)).store.tweets = tweets := by
    rw [hafter, (Action.rest_after_recordTags _ _ _).1, hstore]
    rfl
  refine ⟨s.store.newTweet user (some text) none none time, ?_, rfl⟩
  rw [htweets, hlist]
  exact List.mem_append_right _ List.mem_cons_self

/-- A tweet that is posted takes a number, and so does each hashtag in it, also one that is known.
-/
theorem posts_createTweet (h : s.store.Orderly) (huser : s.store.users.has user = true)
    (hroom : s.store.counters.tweets < Decimal.greatest) (htext : tidy content = some text)
    (hleft : s.store.counters.hashtags + (hashtags text).length ≤ Decimal.greatest) :
    s.Posts (s.perform (.createTweet user content none)) 1 (hashtags text).length := by
  have hevolves : (Action.createTweet user content none).Evolves s := .createTweet user content none
  refine ⟨hevolves.now, (Action.Bypasses.createTweet user content none).cache s, hevolves.store, ?_⟩
  obtain ⟨t, store, hrun, hafter⟩ := perform_createTweet h huser hroom htext
  obtain ⟨tweets, -, hstore⟩ := Store.of_createTweet hrun
  have hcounters : store.counters =
      { s.store.counters with tweets := s.store.counters.tweets + 1 } := by rw [hstore]; rfl
  have horderly : ({ s with store } : Social).store.Orderly :=
    h.change (.post (by simp) hrun)
  rw [hafter, Action.counters_after_recordTags horderly, hcounters]
  · rfl
  · rw [hcounters]
    exact hleft

/-- Whoever posts the same again and again uses up as many numbers each time. -/
theorem posts (h : s.store.Orderly) (huser : s.store.users.has user = true)
    (htext : tidy content = some text) (n : Nat)
    (hroom : s.store.counters.tweets + n ≤ Decimal.greatest)
    (hleft : s.store.counters.hashtags + n * (hashtags text).length ≤ Decimal.greatest) :
    s.Posts (s.run (.replicate n (.createTweet user content none))) n
      (n * (hashtags text).length) := by
  induction n generalizing s with
  | zero => exact ⟨rfl, rfl, .refl, by simp [run]⟩
  | succ n ih =>
    rw [Nat.cast_succ] at hroom hleft
    rw [Int.add_mul, Int.one_mul] at hleft
    have hlater : (0 : Int) ≤ n * (hashtags text).length := Int.mul_nonneg (by omega) (by omega)
    have hfirst := posts_createTweet h huser (by omega) htext (by omega)
    have hrest := ih (hfirst.changes.keeps Store.Orderly.change h)
      (hfirst.changes.keeps (P := fun s ↦ s.users.has user = true)
        (fun hchange ↦ hchange.has_user) huser)
      (by rw [hfirst.counters]; dsimp only; omega) (by rw [hfirst.counters]; dsimp only; omega)
    have hboth := hfirst.trans hrest
    rw [Nat.add_comm 1, Nat.add_comm _ (n * _), ← Nat.succ_mul] at hboth
    rw [List.replicate_succ]
    exact hboth

/-- Where no number of a hashtag is left, no hashtag is added. -/
theorem hashtags_of_full (h : s.store.Orderly)
    (hfull : s.store.counters.hashtags = Decimal.greatest) (op : Operation) :
    (s.perform op).store.hashtags = s.store.hashtags := by
  refine (changes_perform s op).hashtags_eq ?_
  have hmore := (tags_perform h op).more
  have hbound := (orderly_perform h op).tags.counter.2
  omega

/-- A tweet with a new hashtag is stored then, and the hashtag is not. -/
theorem untagged_of_full {name : String} (h : s.store.Orderly)
    (huser : s.store.users.has user = true) (hroom : s.store.counters.tweets < Decimal.greatest)
    (hfull : s.store.counters.hashtags = Decimal.greatest) (htext : tidy content = some text)
    (hname : name ∈ hashtags text) (hnew : s.store.Named (· ≠ name)) :
    (∃ t ∈ (s.perform (.createTweet user content none)).store.tweets.list, name ∈ t.hashtags) ∧
      (s.perform (.createTweet user content none)).store.Named (· ≠ name) := by
  obtain ⟨t, ht, htags⟩ := exists_posted h huser hroom htext
  refine ⟨⟨t, ht, htags ▸ hname⟩, ?_⟩
  rw [Store.Named, hashtags_of_full h hfull]
  exact hnew

end Numbers

/-! ## All numbers used up -/

/-- Ada has posted a hashtag. -/
def sampleTag : Social :=
  (start 1 false ⟨0, 0⟩).run [.createUser { username := "ada", email := "ada@x.org" },
    .createTweet 1 (some "#a") none]

/-- Ada has gone on to post until there was no number of a hashtag left, and could post more, but
has not posted `#c`. -/
structure UsedUp (s : Social) : Prop where
  posts : ∃ n m, sampleTag.Posts s n m
  orderly : s.store.Orderly
  author : s.store.users.has 1 = true
  room : s.store.counters.tweets < Decimal.greatest
  full : s.store.counters.hashtags = Decimal.greatest
  unnamed : s.store.Named (· ≠ "c")

/-- Whoever posts two hashtags time and again can use up all numbers of hashtags. -/
theorem exists_usedUp : ∃ ops, UsedUp (sampleTag.run ops) := by
  have h : sampleTag.store.Orderly := run_orderly 1 false ⟨0, 0⟩ _
  have htags : hashtags "#a #b" = ["a", "b"] := by decide +kernel
  have htext : tidy (some "#a #b") = some "#a #b" := by decide +kernel
  have htweets : sampleTag.store.counters.tweets = 1 := by decide +kernel
  have hhashtags : sampleTag.store.counters.hashtags = 1 := by decide +kernel
  have huser : sampleTag.store.users.has 1 = true := by decide +kernel
  have hnamed : sampleTag.store.Named (· ≠ "c") := by
    rw [Store.Named]
    decide +kernel
  -- the first hashtag has taken one number, and the others come in twos
  have hposts := posts h huser htext ((Decimal.greatest - 1) / 2).toNat
    (by rw [htweets]; decide) (by rw [htags, hhashtags]; decide)
  rw [htags] at hposts
  refine ⟨_, ⟨_, _, hposts⟩, hposts.changes.keeps Store.Orderly.change h,
    hposts.changes.keeps (P := fun s ↦ s.users.has 1 = true) (fun hchange ↦ hchange.has_user) huser,
    ?_, ?_, named_run h hnamed fun op hop tag htag ↦ ?_⟩
  · rw [hposts.counters, htweets]
    decide
  · rw [hposts.counters, hhashtags]
    decide
  · rw [List.eq_of_mem_replicate hop, Operation.tags, htext, Option.map_some, Option.getD_some,
      htags] at htag
    rintro rfl
    exact absurd htag (by decide)

/-- Then she posts `#c`. -/
theorem UsedUp.untagged {s : Social} (h : UsedUp s) :
    (∃ t ∈ (s.perform (.createTweet 1 (some "#c") none)).store.tweets.list, "c" ∈ t.hashtags) ∧
      (s.perform (.createTweet 1 (some "#c") none)).store.Named (· ≠ "c") := by
  have htext : tidy (some "#c") = some "#c" := by decide +kernel
  have htag : "c" ∈ hashtags "#c" := by decide +kernel
  exact untagged_of_full h.orderly h.author h.room h.full htext htag h.unnamed

end Social

end Microblog
