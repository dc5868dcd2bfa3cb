import Microblog.Proofs.Store.Change
import Microblog.Proofs.Store.Written

/-!
# Tables that few statements write to

Notifications, hashtags and the links between tweets and hashtags have statements of their own.  To
all other statements they stand aside: these add nothing to the three tables, give none of their
numbers, and take out of them at most what a deleted tweet takes along (`Store.Aside`).  So an
invariant of the three tables needs one case for all these statements, and one for each of the four
others (`Store.Change.aside_or`).
-/

set_option autoImplicit false

namespace Microblog

namespace Store

variable {now : Nat} {s s' : Store}

/-- Nothing was added to the notifications, the hashtags and their links. -/
structure Aside (s s' : Store) : Prop where
  notifications : ∃ p, s'.notifications = s.notifications.keep p
  lastNotification : s'.counters.notifications = s.counters.notifications
  hashtags : s'.hashtags = s.hashtags
  lastHashtag : s'.counters.hashtags = s.counters.hashtags
  tagLinks : ∃ p, s'.tagLinks = s.tagLinks.keep p
  lastTweet : s.counters.tweets ≤ s'.counters.tweets

namespace Aside

/-- The tables are as they were. -/
theorem of_eq (hnotifications : s'.notifications = s.notifications)
    (hhashtags : s'.hashtags = s.hashtags) (htagLinks : s'.tagLinks = s.tagLinks)
    (hlastNotification : s'.counters.notifications = s.counters.notifications)
    (hlastHashtag : s'.counters.hashtags = s.counters.hashtags)
    (hlastTweet : s.counters.tweets ≤ s'.counters.tweets) : s.Aside s' where
  notifications := ⟨fun _ ↦ true, by rw [Rows.keep_eq_self fun _ _ ↦ rfl, hnotifications]⟩
  lastNotification := hlastNotification
  hashtags := hhashtags
  lastHashtag := hlastHashtag
  tagLinks := ⟨fun _ ↦ true, by rw [Rows.keep_eq_self fun _ _ ↦ rfl, htagLinks]⟩
  lastTweet := hlastTweet

/-- A deleted tweet takes along what names it. -/
theorem of_without {D : List Int} (hnotifications : s'.notifications =
      (s.withoutTweets D).notifications) (hhashtags : s'.hashtags = s.hashtags)
    (htagLinks : s'.tagLinks = (s.withoutTweets D).tagLinks)
    (hcounters : s'.counters = s.counters) : s.Aside s' where
  notifications := ⟨_, hnotifications⟩
  lastNotification := by rw [hcounters]
  hashtags := hhashtags
  lastHashtag := by rw [hcounters]
  tagLinks := ⟨_, htagLinks⟩
  lastTweet := Int.le_of_eq (by rw [hcounters])

protected theorem refl (s : Store) : s.Aside s := of_eq rfl rfl rfl rfl rfl (Int.le_refl _)

end Aside

/-- **All but four statements leave notifications, hashtags and links aside.** -/
theorem Change.aside_or (h : Change now s s') : s.Aside s' ∨
    (∃ new n, s.createNotification now new = .ok (n, s')) ∨
    (∃ recipient n, s.markRead recipient = .ok (n, s')) ∨
    (∃ name u, s.addTag now name = .ok (u, s')) ∨
    ∃ tweet tag u, s.linkTag tweet tag = .ok (u, s') := by
  have hnext : s.counters.tweets ≤ s.counters.tweets + 1 := by omega
  cases h with
  | notify h => exact .inr (.inl ⟨_, _, h⟩)
  | markRead h => exact .inr (.inr (.inl ⟨_, _, h⟩))
  | tag h => exact .inr (.inr (.inr (.inl ⟨_, _, h⟩)))
  | link h => exact .inr (.inr (.inr (.inr ⟨_, _, _, h⟩)))
  | register h =>
    obtain ⟨_, _, _, _, rfl⟩ := of_createUser h
    exact .inl (.of_eq rfl rfl rfl rfl rfl (Int.le_refl _))
  | @post _ _ parent _ _ _ h =>
    obtain ⟨_, _, rfl⟩ := of_createTweet h
    cases parent with
    | none => exact .inl (.of_eq rfl rfl rfl rfl rfl hnext)
    | some p => exact .inl (.of_eq rfl rfl rfl rfl rfl hnext)
  | delete _ h =>
    rcases of_deleteTweet h with ⟨-, rfl⟩ | ⟨-, t, -, -, -, D, -, rfl⟩
    · exact .inl (.refl _)
    · cases t.parentId with
      | none => exact .inl (.of_without rfl rfl rfl rfl)
      | some p => exact .inl (.of_without rfl rfl rfl rfl)
  | retweet _ h =>
    rcases of_createRetweet h with rfl | ⟨_, _, rfl⟩
    · exact .inl (.refl _)
    · exact .inl (.of_eq rfl rfl rfl rfl rfl hnext)
  | undo h =>
    rcases of_deleteRetweet h with ⟨-, rfl⟩ | ⟨-, _, -, -, -, D, -, rfl⟩
    · exact .inl (.refl _)
    · exact .inl (.of_without rfl rfl rfl rfl)
  | like h =>
    rcases of_like h with ⟨-, rfl⟩ | ⟨-, _, _, -, -, -, -, -, rfl⟩
    · exact .inl (.refl _)
    · exact .inl (.of_eq rfl rfl rfl rfl rfl (Int.le_refl _))
  | unlike h =>
    rcases of_unlike h with ⟨-, rfl⟩ | ⟨-, _, -, -, -, rfl⟩
    · exact .inl (.refl _)
    · exact .inl (.of_eq rfl rfl rfl rfl rfl (Int.le_refl _))
  | follow h =>
    rcases of_follow h with ⟨-, rfl⟩ | ⟨-, _, _, -, -, -, -, -, -, rfl⟩
    · exact .inl (.refl _)
    · exact .inl (.of_eq rfl rfl rfl rfl rfl (Int.le_refl _))
  | unfollow h =>
    rcases of_unfollow h with ⟨-, rfl⟩ | ⟨-, _, -, -, -, rfl⟩
    · exact .inl (.refl _)
    · exact .inl (.of_eq rfl rfl rfl rfl rfl (Int.le_refl _))
  | profile h =>
    rcases of_writeProfile h with ⟨-, rfl⟩ | ⟨-, _, rfl⟩
    · exact .inl (.refl _)
    · exact .inl (.of_eq rfl rfl rfl rfl rfl (Int.le_refl _))

end Store

end Microblog
