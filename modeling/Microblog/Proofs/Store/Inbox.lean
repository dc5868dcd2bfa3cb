import Microblog.Proofs.Store.Aside
import Microblog.Proofs.Store.Listing

/-!
# The notifications of a user

Every notification that is stored can be read, and its number was given (`Store.Delivered`).  So
the notifications of a user can be listed, the newest first and each once, whatever page of them is
asked for (`Store.Delivered.listNotifications_eq_ok`).
-/

set_option autoImplicit false

namespace Microblog

open Text

namespace Store

variable {now : Nat} {s s' : Store}

/-- The notifications of a user, the newest first. -/
def inbox (s : Store) (recipient : Int) : List StoredNotification :=
  (s.notifications.list.filter (·.recipientId = recipient)).mergeSort StoredNotification.isNewer

/-- Every notification can be read, and its number was given. -/
structure Delivered (s : Store) : Prop where
  readable : ∀ m ∈ s.notifications.list, ∃ n, m.read = .ok n
  numbered : ∀ m ∈ s.notifications.list, 1 ≤ m.id ∧ m.id ≤ s.counters.notifications
  counter : 0 ≤ s.counters.notifications ∧ s.counters.notifications ≤ Decimal.greatest

theorem mem_inbox {recipient : Int} {m : StoredNotification} :
    m ∈ s.inbox recipient ↔ m ∈ s.notifications.list ∧ m.recipientId = recipient := by
  rw [inbox, List.mem_mergeSort, List.mem_filter, decide_eq_true_eq]

/-- Of two notifications the later one in the listing is the older one. -/
theorem pairwise_inbox (s : Store) (recipient : Int) :
    (s.inbox recipient).Pairwise fun m n ↦ n.id < m.id :=
  pairwise_mergeSort_of_rank (fun m : StoredNotification ↦ OrderDual.toDual m.id)
    (fun _ _ _ _ ↦ decide_eq_true_iff) (s.notifications.pairwise_key_ne _)

/-- A notification that is marked as read can still be read. -/
theorem read_markedBy {m : StoredNotification} {n : Notification} (h : m.read = .ok n)
    (recipient : Int) : ∃ n', (m.markedBy recipient).read = .ok n' := by
  rw [StoredNotification.markedBy]
  split
  · rw [StoredNotification.read] at h ⊢
    split at h
    · rename_i kind hkind
      rw [hkind]
      exact ⟨_, rfl⟩
    · cases h
  · exact ⟨n, h⟩

namespace Delivered

theorem aside (haside : s.Aside s') (h : s.Delivered) : s'.Delivered := by
  obtain ⟨p, hp⟩ := haside.notifications
  have hkept : ∀ m ∈ s'.notifications.list, m ∈ s.notifications.list := fun m hm ↦
    (Rows.mem_keep.1 (hp ▸ hm)).1
  exact ⟨fun m hm ↦ h.readable m (hkept m hm),
    fun m hm ↦ haside.lastNotification ▸ h.numbered m (hkept m hm),
    haside.lastNotification ▸ h.counter⟩

/-- A notification is stored with the next number. -/
theorem createNotification {new : NewNotification} {n : Notification}
    (hrun : s.createNotification now new = .ok (n, s')) (h : s.Delivered) : s'.Delivered := by
  obtain ⟨time, notifications, hlast, hlist, -, -, -, hread, rfl⟩ := of_createNotification hrun
  have hcounter := h.counter
  refine ⟨fun m hm ↦ ?_, fun m hm ↦ ?_, ?_⟩
  · rcases List.mem_append.1 (hlist ▸ hm) with hm | hm
    · exact h.readable m hm
    · rw [List.mem_singleton.1 hm]
      exact ⟨_, hread⟩
  · show 1 ≤ m.id ∧ m.id ≤ s.counters.notifications + 1
    rcases List.mem_append.1 (hlist ▸ hm) with hm | hm
    · have hnumbered := h.numbered m hm
      omega
    · obtain rfl := List.mem_singleton.1 hm
      show 1 ≤ s.counters.notifications + 1 ∧
        s.counters.notifications + 1 ≤ s.counters.notifications + 1
      omega
  · show 0 ≤ s.counters.notifications + 1 ∧ s.counters.notifications + 1 ≤ Decimal.greatest
    omega

theorem markRead {recipient : Int} {n : Nat} (hrun : s.markRead recipient = .ok (n, s'))
    (h : s.Delivered) : s'.Delivered := by
  obtain ⟨-, rfl⟩ := of_markRead hrun
  refine ⟨fun m' hm' ↦ ?_, fun m' hm' ↦ ?_, h.counter⟩
  · obtain ⟨m, hm, rfl⟩ := List.mem_map.1 hm'
    obtain ⟨n, hn⟩ := h.readable m hm
    exact read_markedBy hn _
  · obtain ⟨m, hm, rfl⟩ := List.mem_map.1 hm'
    rw [m.id_markedBy]
    exact h.numbered m hm

/-- **Whatever the application writes, notifications can be read and keep their numbers in
range.** -/
theorem change (hchange : Change now s s') (h : s.Delivered) : s'.Delivered := by
  rcases hchange.aside_or with haside | ⟨_, _, hrun⟩ | ⟨_, _, hrun⟩ | ⟨_, _, hrun⟩ | ⟨_, _, _, hrun⟩
  · exact h.aside haside
  · exact h.createNotification hrun
  · exact h.markRead hrun
  · rcases of_addTag hrun with rfl | ⟨_, _, -, -, -, rfl⟩ <;>
      exact ⟨h.readable, h.numbered, h.counter⟩
  · rcases of_linkTag hrun with rfl | ⟨_, _, -, -, -, -, -, rfl⟩
    · exact h
    · exact ⟨h.readable, h.numbered, h.counter⟩

theorem length_inbox_le (h : s.Delivered) (recipient : Int) :
    ((s.inbox recipient).length : Int) ≤ Decimal.greatest := by
  rw [inbox, List.length_mergeSort, ← List.countP_eq_length_filter]
  refine Int.le_trans ?_ h.counter.2
  exact countP_le_of_range (g := StoredNotification.id) s.notifications.nodup.of_map h.counter.1
    (fun _ hm _ hn _ _ hid ↦ Rows.eq_of_key_eq hm hn hid) fun m hm _ ↦ h.numbered m hm

theorem listNotifications_eq_ok (h : s.Delivered) (hequipped : s.Equipped) (recipient : Int)
    (page : Page) :
    ∃ found, s.listNotifications recipient page = .ok found ∧
      List.Forall₂ (fun m n ↦ m.read = .ok n) (page.of (s.inbox recipient)) found := by
  have hread : ∀ m ∈ page.of (s.inbox recipient), ∃ n, m.read = .ok n := fun m hm ↦
    h.readable m (mem_inbox.1 (mem_of_mem_page hm)).1
  obtain ⟨found, hfound, hshown⟩ := mapM_eq_ok_forall₂ hread
  refine ⟨found, ?_, hshown⟩
  simp only [listNotifications, during_eq_ok_iff, bind_eq_ok_iff]
  exact ⟨(), hequipped.require _, hfound⟩

end Delivered

end Store

end Microblog
