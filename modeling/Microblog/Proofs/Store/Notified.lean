import Microblog.Proofs.Store.Aside

/-!
# Notifications are numbered as they come

Only one statement adds notifications, one at a time and each with the next number
(`Store.Change.notified_or`).  So a notification that is stored has a number that was given
(`Store.NotificationsNumbered`), and one that was not stored before has a greater number than any
that was given until then, whether its row is still there or not (`Store.NotificationsGrow`).
-/

set_option autoImplicit false

namespace Microblog

/-- What is read from a row is for whom the row is. -/
theorem StoredNotification.of_read {m : StoredNotification} {n : Notification}
    (h : m.read = .ok n) : n.id = m.id ∧ n.recipientId = m.recipientId := by
  rw [read] at h
  split at h
  · rw [bind_eq_ok_iff] at h
    obtain ⟨mark, -, h⟩ := h
    obtain rfl := Except.ok.inj h
    exact ⟨rfl, rfl⟩
  · cases h

namespace Store

variable {now : Nat} {s s' s'' : Store}

/-- A new notification is one that was not read. -/
theorem isRead_of_read_newNotification {new : NewNotification} {time : String} {n : Notification}
    (h : (s.newNotification new time).read = .ok n) : n.isRead = false := by
  rw [StoredNotification.read, newNotification, NotificationKind.ofName?_name] at h
  obtain rfl := Except.ok.inj h
  rfl

/-- No notification is stored that was not stored before. -/
def NoneNotified (s s' : Store) : Prop :=
  ∀ m ∈ s'.notifications.list, s.notifications.has m.id = true

theorem NoneNotified.of_keep {p : StoredNotification → Bool}
    (h : s'.notifications = s.notifications.keep p) : s.NoneNotified s' := by
  intro m hm
  rw [h] at hm
  exact Rows.has_iff.2 ⟨m, (Rows.mem_keep.1 hm).1, rfl⟩

theorem NoneNotified.of_eq (h : s'.notifications = s.notifications) : s.NoneNotified s' :=
  fun m hm ↦ Rows.has_iff.2 ⟨m, h ▸ hm, rfl⟩

/-- Notifications that are marked as read are still the same ones. -/
theorem NoneNotified.markRead {recipient : Int} {n : Nat}
    (h : s.markRead recipient = .ok (n, s')) : s.NoneNotified s' := by
  obtain ⟨-, rfl⟩ := of_markRead h
  intro m' hm'
  obtain ⟨m, hm, rfl⟩ := List.mem_map.1 hm'
  exact Rows.has_iff.2 ⟨m, hm, (m.id_markedBy recipient).symm⟩

theorem NoneNotified.deleteTweet {id user : Int} {b : Bool}
    (h : s.deleteTweet id user = .ok (b, s')) : s.NoneNotified s' := by
  rcases of_deleteTweet h with ⟨-, rfl⟩ | ⟨-, t, -, -, -, D, -, rfl⟩
  · exact of_eq rfl
  · cases t.parentId with
    | none => exact of_keep rfl
    | some p => exact of_keep rfl

theorem NoneNotified.deleteRetweet {user target : Int} {b : Bool}
    (h : s.deleteRetweet user target = .ok (b, s')) : s.NoneNotified s' := by
  rcases of_deleteRetweet h with ⟨-, rfl⟩ | ⟨-, _, -, -, -, D, -, rfl⟩
  · exact of_eq rfl
  · exact of_keep rfl

/-- **A statement adds no notification, or one that takes the next number.** -/
theorem Change.notified_or (h : Change now s s') :
    (s.NoneNotified s' ∧ s'.counters.notifications = s.counters.notifications) ∨
      ∃ new time, s'.notifications.list = s.notifications.list ++ [s.newNotification new time] ∧
        s'.counters.notifications = s.counters.notifications + 1 := by
  rcases h.aside_or with haside | ⟨new, n, h⟩ | ⟨_, _, h⟩ | ⟨_, _, h⟩ | ⟨_, _, _, h⟩
  · obtain ⟨p, hp⟩ := haside.notifications
    exact .inl ⟨.of_keep hp, haside.lastNotification⟩
  · obtain ⟨time, notifications, -, hlist, -, -, -, -, rfl⟩ := of_createNotification h
    exact .inr ⟨new, time, hlist, rfl⟩
  · have hnone := NoneNotified.markRead h
    obtain ⟨-, rfl⟩ := of_markRead h
    exact .inl ⟨hnone, rfl⟩
  · rcases of_addTag h with rfl | ⟨_, _, -, -, -, rfl⟩
    · exact .inl ⟨.of_eq rfl, rfl⟩
    · exact .inl ⟨.of_eq rfl, rfl⟩
  · rcases of_linkTag h with rfl | ⟨_, _, -, -, -, -, -, rfl⟩
    · exact .inl ⟨.of_eq rfl, rfl⟩
    · exact .inl ⟨.of_eq rfl, rfl⟩

/-- Every notification has a number that was given. -/
def NotificationsNumbered (s : Store) : Prop :=
  ∀ m ∈ s.notifications.list, m.id ≤ s.counters.notifications

theorem NotificationsNumbered.change (hchange : Change now s s') (h : s.NotificationsNumbered) :
    s'.NotificationsNumbered := by
  intro m hm
  rcases hchange.notified_or with ⟨hnone, hcounter⟩ | ⟨new, time, hlist, hcounter⟩
  · obtain ⟨old, hold, hid⟩ := Rows.has_iff.1 (hnone m hm)
    have hid : old.id = m.id := hid
    rw [← hid, hcounter]
    exact h old hold
  · rw [hcounter]
    rcases List.mem_append.1 (hlist ▸ hm) with hm | hm
    · exact Int.le_add_one (h m hm)
    · rw [List.mem_singleton.1 hm]
      exact Int.le_refl _

/-- What notifications are stored now were stored before, or have a greater number than any that was
given then. -/
structure NotificationsGrow (s s' : Store) : Prop where
  counter : s.counters.notifications ≤ s'.counters.notifications
  new : ∀ m ∈ s'.notifications.list,
    s.notifications.has m.id = true ∨ s.counters.notifications < m.id

namespace NotificationsGrow

theorem refl (s : Store) : NotificationsGrow s s :=
  ⟨Int.le_refl _, fun m hm ↦ .inl (Rows.has_iff.2 ⟨m, hm, rfl⟩)⟩

theorem trans (h : NotificationsGrow s s') (h' : NotificationsGrow s' s'') :
    NotificationsGrow s s'' := by
  refine ⟨Int.le_trans h.counter h'.counter, fun m hm ↦ ?_⟩
  rcases h'.new m hm with hhas | hlt
  · obtain ⟨old, hold, hid⟩ := Rows.has_iff.1 hhas
    exact hid ▸ h.new old hold
  · exact .inr (Int.lt_of_le_of_lt h.counter hlt)

theorem change (h : Change now s s') : NotificationsGrow s s' := by
  rcases h.notified_or with ⟨hnone, hcounter⟩ | ⟨new, time, hlist, hcounter⟩
  · exact ⟨Int.le_of_eq hcounter.symm, fun m hm ↦ .inl (hnone m hm)⟩
  · refine ⟨by omega, fun m hm ↦ ?_⟩
    rcases List.mem_append.1 (hlist ▸ hm) with hm | hm
    · exact .inl (Rows.has_iff.2 ⟨m, hm, rfl⟩)
    · rw [List.mem_singleton.1 hm]
      exact .inr (Int.lt_succ _)

theorem changes (h : Changes now s s') : NotificationsGrow s s' :=
  h.keeps (fun hstep h ↦ h.trans (change hstep)) (refl s)

end NotificationsGrow

end Store

end Microblog
