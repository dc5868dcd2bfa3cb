import Microblog.Proofs.Social.Deeds
import Microblog.Proofs.Social.Reachable

/-!
# A request that fails changes nothing

`Social.run_atomic` says of every request that writes tweets, likes, follows or profiles: if it
fails, it has left everything as it was, whatever it was asked for.  As an internal failure it is
told only if the store itself fails, at the limit `Social.AtLimit`; some requests never fail so.

Most of it is what `Action.Ends` says of the request.  Here it is only added that a run leaves the
store in order.
-/

set_option autoImplicit false

namespace Microblog

/-- Why something failed, if it did. -/
def Except.failure? {α : Type} : Except Failure α → Option Failure
  | .ok _ => none
  | .error f => some f

namespace Action

variable {α : Type} {s : Social} {L : Prop} {P : α → Social → Prop}

theorem Ends.of_failure {a : Action α} (h : a.Ends s L P) {f : Failure}
    (hf : Except.failure? (a.answer s) = some f) :
    a.after s = s ∧ (f.report.kind = .internal → L) := by
  rcases h with ⟨f', hanswer, hafter, hlimit⟩ | ⟨x, hx, -⟩
  · rw [hanswer] at hf
    obtain rfl := Option.some.inj hf
    exact ⟨hafter, hlimit⟩
  · rw [hx] at hf
    cases hf

end Action

namespace Social

/-- How a request that writes tweets, likes, follows or profiles fails, if it does. -/
def failure? (s : Social) : Operation → Option Failure
  | .createTweet user content parent =>
    Except.failure? ((Action.createTweet user content parent).answer s)
  | .deleteTweet user tweet => Except.failure? ((Action.deleteTweet user tweet).answer s)
  | .like user tweet => Except.failure? ((Action.like user tweet).answer s)
  | .unlike user tweet => Except.failure? ((Action.unlike user tweet).answer s)
  | .retweet user tweet => Except.failure? ((Action.retweet user tweet).answer s)
  | .undoRetweet user tweet => Except.failure? ((Action.undoRetweet user tweet).answer s)
  | .follow follower target => Except.failure? ((Action.follow follower target).answer s)
  | .unfollow follower target => Except.failure? ((Action.unfollow follower target).answer s)
  | .updateProfile user displayName bio =>
    Except.failure? ((Action.updateProfile user displayName bio).answer s)
  | _ => none

/-- The store is at the limit where it fails to carry out what an operation asks of it: all numbers
of tweets are given, or a deletion would go too far. -/
def AtLimit (s : Social) : Operation → Prop
  | .createTweet .. | .retweet .. => s.store.counters.tweets = Text.Decimal.greatest
  | .deleteTweet user _ | .undoRetweet user _ => s.store.TooDeep user
  | _ => False

theorem unchanged_of_failure {s : Social} (h : s.store.Orderly) {op : Operation} {f : Failure}
    (hf : s.failure? op = some f) :
    s.perform op = s ∧ (f.report.kind = .internal → s.AtLimit op) := by
  cases op with
  | createTweet user content parent =>
    exact (Action.Ends.createTweet h user content parent).of_failure hf
  | deleteTweet user tweet => exact (Action.Ends.deleteTweet h user tweet).of_failure hf
  | like user tweet => exact (Action.Ends.like h user tweet).of_failure hf
  | unlike user tweet => exact (Action.Ends.unlike h user tweet).of_failure hf
  | retweet user tweet => exact (Action.Ends.retweet h user tweet).of_failure hf
  | undoRetweet user tweet => exact (Action.Ends.undoRetweet h user tweet).of_failure hf
  | follow follower target => exact (Action.Ends.follow h follower target).of_failure hf
  | unfollow follower target => exact (Action.Ends.unfollow h follower target).of_failure hf
  | updateProfile user name bio => exact (Action.Ends.updateProfile h user name bio).of_failure hf
  | _ => cases hf

theorem orderly_migrated : Store.migrated.Orderly where
  toReadable := Store.readable_migrated
  tags := Store.tagsNumbered_migrated
  notices _ hm := absurd hm List.not_mem_nil

theorem run_orderly (capacity : Nat) (cached : Bool) (lifetimes : Lifetimes)
    (ops : List Operation) : ((start capacity cached lifetimes).run ops).store.Orderly :=
  run_keeps Store.Orderly.change _ ops orderly_migrated

/-- **In every run a request that fails has changed nothing**: no row of any table, nothing in the
cache and in no mailbox; and it is told as an internal failure only when the store is at a limit. -/
theorem run_atomic (capacity : Nat) (cached : Bool) (lifetimes : Lifetimes)
    (ops : List Operation) (op : Operation) {f : Failure}
    (hf : ((start capacity cached lifetimes).run ops).failure? op = some f) :
    ((start capacity cached lifetimes).run ops).perform op =
        (start capacity cached lifetimes).run ops ∧
      (f.report.kind = .internal → ((start capacity cached lifetimes).run ops).AtLimit op) :=
  unchanged_of_failure (run_orderly capacity cached lifetimes ops) hf

/-- Ada has posted, and bob has retweeted that. -/
def sampleRetweet : Social :=
  (start 1 true ⟨0, 0⟩).run [.createUser { username := "ada", email := "ada@x.org" },
    .createUser { username := "bob", email := "bob@x.org" }, .createTweet 1 (some "hi") none,
    .retweet 2 1]

/-- Bob retweets his own record, which stands for a tweet that he has retweeted. -/
theorem run_atomic_retweeted_twice :
    sampleRetweet.failure? (.retweet 2 2) = some .alreadyRetweeted ∧
      sampleRetweet.perform (.retweet 2 2) = sampleRetweet := by
  have hf : sampleRetweet.failure? (.retweet 2 2) = some .alreadyRetweeted := by decide +kernel
  exact ⟨hf, (run_atomic 1 true ⟨0, 0⟩ _ (.retweet 2 2) hf).1⟩

end Social

end Microblog
