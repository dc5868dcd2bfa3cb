import Microblog.Proofs.Social.Run
import Microblog.Proofs.Store.Readable

/-!
# What holds after every run

Every run of the application, from a store that was just migrated and with whatever operations,
leaves a store

* in which all that is named is stored (`Social.run_grounded`),
* whose tweets are a forest, and whose next tweet has a number that no tweet of the run ever had
  (`Social.run_tweetGraph`),
* whose counters are right (`Social.run_countersExact`),
* and whose rows can be read (`Social.run_readable`).

The work is done statement by statement where the store is.  Here it is only put together.
-/

set_option autoImplicit false

namespace Microblog

namespace Store

theorem grounded_migrated : Grounded migrated where
  author _ ht := absurd ht List.not_mem_nil
  parent _ ht := absurd ht List.not_mem_nil
  original _ ht := absurd ht List.not_mem_nil
  either _ ht := absurd ht List.not_mem_nil
  bare _ ht := absurd ht List.not_mem_nil
  once _ ht := absurd ht List.not_mem_nil
  numbered _ ht := absurd ht List.not_mem_nil
  index := rfl
  userIds _ hu := absurd hu List.not_mem_nil
  tweetIds _ ht := absurd ht List.not_mem_nil
  usersFit := by decide
  tweetsFit := by decide
  likes _ hl := absurd hl List.not_mem_nil
  follows _ hf := absurd hf List.not_mem_nil

theorem countersExact_migrated : CountersExact migrated where
  likes _ ht := absurd ht List.not_mem_nil
  replies _ ht := absurd ht List.not_mem_nil
  retweets _ ht := absurd ht List.not_mem_nil
  followers _ hu := absurd hu List.not_mem_nil
  following _ hu := absurd hu List.not_mem_nil

theorem readable_migrated : Readable migrated := ⟨rfl, grounded_migrated, countersExact_migrated⟩

theorem tagsNumbered_migrated : TagsNumbered migrated where
  tags _ htag := absurd htag List.not_mem_nil
  counter := by decide
  links _ hl := absurd hl List.not_mem_nil

end Store

namespace Social

/-- A run only ever adds tweets with numbers that were not given before. -/
theorem run_outgrows (s : Social) (ops : List Operation) :
    s.store.Outgrows (s.run ops).store := by
  induction ops generalizing s with
  | nil => exact .refl _
  | cons op ops ih => exact (Store.Outgrows.changes (s.changes_perform op)).trans (ih _)

variable (capacity : Nat) (cached : Bool) (lifetimes : Lifetimes) (ops : List Operation)

theorem run_grounded : ((start capacity cached lifetimes).run ops).store.Grounded :=
  run_keeps Store.Grounded.change _ ops Store.grounded_migrated

/-- **The tweets of every run are a forest of replies and retweets**, without cycles, and a tweet
that an operation adds has a greater number than any tweet that was stored at any time before. -/
theorem run_tweetGraph :
    ((start capacity cached lifetimes).run ops).store.TweetGraph ∧
    (∀ id, ¬Relation.TransGen ((start capacity cached lifetimes).run ops).store.Refers id id) ∧
    ∀ op, ∀ t ∈ (((start capacity cached lifetimes).run ops).perform op).store.tweets.list,
      ((start capacity cached lifetimes).run ops).store.tweets.has t.id = false →
      ∀ n, ∀ u ∈ ((start capacity cached lifetimes).run (ops.take n)).store.tweets.list,
        u.id < t.id := by
  have hgraph := (run_grounded capacity cached lifetimes ops).toTweetGraph
  refine ⟨hgraph, hgraph.acyclic, fun op t ht hnew n u hu ↦ ?_⟩
  have hold := (run_grounded capacity cached lifetimes (ops.take n)).numbered u hu
  have hgrown := run_outgrows ((start capacity cached lifetimes).run (ops.take n)) (ops.drop n)
  rw [← run_append, List.take_append_drop] at hgrown
  have hstep := Store.Outgrows.changes
    (changes_perform ((start capacity cached lifetimes).run ops) op)
  have hfresh : ((start capacity cached lifetimes).run ops).store.counters.tweets < t.id :=
    (hstep.new t ht).resolve_left (Bool.eq_false_iff.1 hnew)
  calc u.id ≤ ((start capacity cached lifetimes).run (ops.take n)).store.counters.tweets := hold
    _ ≤ ((start capacity cached lifetimes).run ops).store.counters.tweets := hgrown.counter
    _ < t.id := hfresh

/-- **After every run all five counters are the numbers of rows that they count**, and no statement
would lower one that is at zero. -/
theorem run_countersExact :
    ((start capacity cached lifetimes).run ops).store.CountersExact ∧
      ((start capacity cached lifetimes).run ops).store.Unclamped := by
  have hboth : ((start capacity cached lifetimes).run ops).store.Grounded ∧
      ((start capacity cached lifetimes).run ops).store.CountersExact :=
    run_keeps (P := fun s ↦ s.Grounded ∧ s.CountersExact)
      (fun hchange hs ↦ ⟨hs.1.change hchange, hs.2.change hchange hs.1⟩) _ ops
      ⟨Store.grounded_migrated, Store.countersExact_migrated⟩
  exact ⟨hboth.2, hboth.2.unclamped⟩

/-- After every run all rows can be read, and all numbers in them have 64 bits. -/
theorem run_readable : ((start capacity cached lifetimes).run ops).store.Readable ∧
    ((start capacity cached lifetimes).run ops).store.TagsNumbered :=
  run_keeps (P := fun s ↦ s.Readable ∧ s.TagsNumbered)
    (fun hchange hs ↦ ⟨hs.1.change hchange, hs.2.change hchange hs.1.grounded⟩) _ ops
    ⟨Store.readable_migrated, Store.tagsNumbered_migrated⟩

end Social

end Microblog
