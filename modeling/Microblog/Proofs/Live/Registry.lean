import Mathlib.Data.List.Induction
import Microblog.Proofs.Live.Delivery

/-!
# The registry

Subscriptions come and go in any order, and whoever holds one may end it long after others have
subscribed to the same recipient.  `Broker.integrity` says that the registry is nevertheless exactly
what it should be: for each recipient the subscriptions that nobody has ended yet, in the order in
which they were made.

* `Broker.standing` reads off the run which subscriptions these are.  One event makes at most one,
  and strikes out those that it ends (`Broker.standing_concat`), and it does just this to the
  registry (`Broker.Sound.openFor_step_standing`).
* A subscription that was ended stays so, and to end it again does nothing (`Broker.Ended`).
-/

set_option autoImplicit false

namespace Microblog

namespace Broker

variable {b start : Broker} {es : List Event} {e : Event} {id : Nat} {r : Int}

/-! ## The subscriptions that stand -/

/-- The subscription that an event makes, if it makes one: its recipient and its number. -/
def subscribedAt (b : Broker) : Event → List (Int × Nat)
  | .subscribe r => match b.subscribe r with
    | .ok (id, _) => [(r, id)]
    | .error _ => []
  | _ => []

/-- The subscriptions that are made during some events and not ended by any later one of them, in
the order in which they are made. -/
def standing : Broker → List Event → List (Int × Nat)
  | _, [] => []
  | b, e :: es =>
    (b.subscribedAt e).filter (fun s ↦ ∀ e' ∈ es, ¬e'.Closes s.2) ++ standing (b.step e) es

/-- The numbers of those of them that are to one recipient. -/
def standingFor (r : Int) (b : Broker) (es : List Event) : List Nat :=
  ((standing b es).filter fun s ↦ s.1 = r).map Prod.snd

theorem run_concat (start : Broker) (es : List Event) (e : Event) :
    start.run (es ++ [e]) = (start.run es).step e :=
  run_append es [e]

theorem subscribedAt_subscribe (hfits : b.capacity < tooLarge) (r : Int) :
    b.subscribedAt (.subscribe r) = [(r, b.opened)] := by
  rw [subscribedAt, subscribe, if_pos hfits]
  rfl

theorem subscribedAt_of_ne (he : ∀ r, e ≠ .subscribe r) : b.subscribedAt e = [] := by
  cases e with
  | subscribe r => exact absurd rfl (he r)
  | publish | receive | unsubscribe | drop => rfl

/-- An event strikes out the subscriptions that it ends, and adds the one that it makes. -/
theorem standing_concat (b : Broker) (es : List Event) (e : Event) :
    standing b (es ++ [e]) =
      (standing b es).filter (fun s ↦ ¬e.Closes s.2) ++ (b.run es).subscribedAt e := by
  induction es generalizing b with
  | nil =>
    simp only [List.nil_append, standing, List.append_nil, List.filter_nil]
    exact List.filter_eq_self.2 fun s _ ↦ decide_eq_true fun e' he' ↦ nomatch he'
  | cons first es ih =>
    simp only [List.cons_append, standing, ih, List.filter_append, List.filter_filter,
      List.append_assoc]
    congr 1
    refine List.filter_congr fun s _ ↦ ?_
    rw [Bool.eq_iff_iff]
    simp [or_imp, forall_and, and_comm]

theorem standingFor_concat (r : Int) (b : Broker) (es : List Event) (e : Event) :
    standingFor r b (es ++ [e]) = (standingFor r b es).filter (fun id ↦ ¬e.Closes id) ++
      (((b.run es).subscribedAt e).filter fun s ↦ s.1 = r).map Prod.snd := by
  simp only [standingFor, standing_concat, List.filter_append, List.map_append, List.filter_map,
    List.filter_filter, Function.comp_def, Bool.and_comm]

/-! ## The registry lists them -/

/-- What one event does to the registry is what it does to the subscriptions that stand. -/
theorem Sound.openFor_step_standing (h : b.Sound) (e : Event) (r : Int) :
    (b.step e).openFor r = (b.openFor r).filter (fun id ↦ ¬e.Closes id) ++
      ((b.subscribedAt e).filter fun s ↦ s.1 = r).map Prod.snd := by
  by_cases he : ∃ r', e = .subscribe r'
  · obtain ⟨r', rfl⟩ := he
    have hcloses : (b.openFor r).filter (fun id ↦ ¬(Event.subscribe r').Closes id) =
        b.openFor r := List.filter_eq_self.2 fun id _ ↦ by simp [Event.Closes]
    rw [hcloses]
    by_cases hfits : b.capacity < tooLarge
    · rw [step_subscribe hfits, subscribedAt_subscribe hfits]
      show Broker.openFor r (Broker.mk _ _ (b.registry.put r' _) _) = _
      rw [openFor_put]
      by_cases hr : r = r'
      · simp [hr]
      · simp [hr, Ne.symm hr, openFor]
    · have hstep : b.step (.subscribe r') = b := by
        rw [Broker.step, subscribe, if_neg hfits]
      have hnone : b.subscribedAt (.subscribe r') = [] := by
        rw [subscribedAt, subscribe, if_neg hfits]
      rw [hstep, hnone]
      simp
  · rw [not_exists] at he
    rw [h.openFor_step_eq he, subscribedAt_of_ne he]
    simp

/-- **The registry lists the subscriptions that stand**, in the order in which they were made. -/
theorem Sound.openFor_run (h : start.Sound) (hnone : ∀ r, start.openFor r = []) (es : List Event)
    (r : Int) : (start.run es).openFor r = standingFor r start es := by
  induction es using List.reverseRecOn with
  | nil => exact hnone r
  | append_singleton es e ih =>
    rw [run_concat, (h.run es).openFor_step_standing, standingFor_concat, ih]

/-- No recipient is kept without a mailbox. -/
def Compact (b : Broker) : Prop := ∀ r, b.registry.get? r ≠ some []

theorem Compact.unsubscribe (h : b.Compact) (id : Nat) : (b.unsubscribe id).Compact := by
  intro r
  rw [Broker.unsubscribe]
  split
  · rename_i box _
    split
    · show (b.unregister box.recipient id).registry.get? r ≠ some []
      rw [unregister]
      split
      · rw [Keyed.get?_remove]
        split
        · exact (Option.some_ne_none _).symm
        · exact h r
      · rename_i ids hids
        rw [Keyed.get?_put]
        split
        · exact fun hnil ↦ hids (Option.some.inj hnil)
        · exact h r
    · exact h r
  · exact h r

theorem Compact.step (h : b.Compact) (e : Event) : (b.step e).Compact := by
  cases e with
  | subscribe r =>
    rcases b.step_subscribe_eq_or r with hstep | hstep
    · rw [hstep]
      intro r'
      show (b.registry.put r (b.openFor r ++ [b.opened])).get? r' ≠ some []
      rw [Keyed.get?_put]
      split
      · simp
      · exact h r'
    · rwa [hstep]
  | publish r n =>
    obtain ⟨mailboxes, hpublish⟩ := b.offerAll_eq n (b.openFor r)
    show (b.publish r n).2.Compact
    rw [publish, hpublish]
    exact h
  | receive i =>
    show (b.receive i).2.Compact
    rw [receive]
    split
    · split <;> exact h
    · exact h
  | unsubscribe i | drop i => exact h.unsubscribe i

theorem Compact.run (h : b.Compact) (es : List Event) : (b.run es).Compact := by
  induction es generalizing b with
  | nil => exact h
  | cons e es ih => exact ih (h.step e)

/-- No number stands in the registry twice, be it for one recipient or for two. -/
theorem Sound.nodup_registry (h : b.Sound) : (b.registry.entries.flatMap Prod.snd).Nodup := by
  have hentry : ∀ entry ∈ b.registry.entries, entry.2 = b.openFor entry.1 := by
    intro entry hentry
    rw [openFor, Keyed.get?_eq_some_iff.2 hentry, Option.getD_some]
  refine List.nodup_flatMap.2 ⟨fun entry hmem ↦ ?_, ?_⟩
  · rw [hentry entry hmem]
    exact h.nodup _
  · refine (List.pairwise_map.1 b.registry.nodup).imp_of_mem fun {entry entry'} hmem hmem' hne ↦ ?_
    intro id hid hid'
    rw [hentry entry hmem] at hid
    rw [hentry entry' hmem'] at hid'
    exact hne (h.recipient_unique hid hid')

/-! ## Subscriptions that were ended -/

/-- The subscription was made, and is not open any more. -/
structure Ended (id : Nat) (b : Broker) : Prop where
  opened : b.Opened id
  closed : ∀ box, b.mailboxes.get? id = some box → box.isOpen = false

/-- A subscription that was ended stays so. -/
theorem Ended.step (h : Ended id b) (e : Event) : Ended id (b.step e) where
  opened := h.opened.step e
  closed box' hbox' := by
    rw [h.opened.sound.get?_step h.opened.fits h.opened.lt] at hbox'
    obtain ⟨box, hbox, hnext⟩ := Option.bind_eq_some_iff.1 hbox'
    have hclosed := h.closed box hbox
    refine Bool.eq_false_of_not_eq_true fun hopen ↦ ?_
    rw [((Mailbox.isOpen_next hnext).1 hopen).1] at hclosed
    cases hclosed

theorem Ended.run (h : Ended id b) (es : List Event) : Ended id (b.run es) := by
  induction es generalizing b with
  | nil => exact h
  | cons e es ih => exact ih (h.step e)

/-- To leave ends a subscription. -/
theorem Opened.ended (h : b.Opened id) : Ended id (b.step (.unsubscribe id)) where
  opened := h.step _
  closed box' hbox' := by
    rw [h.sound.get?_step h.fits h.lt] at hbox'
    obtain ⟨box, -, hnext⟩ := Option.bind_eq_some_iff.1 hbox'
    obtain rfl := Option.some.inj hnext
    rw [if_pos rfl]

/-- To leave again changes nothing. -/
theorem Ended.unsubscribe (h : Ended id b) : b.step (.unsubscribe id) = b := by
  rw [Broker.step, Broker.unsubscribe]
  split
  · rename_i box hbox
    rw [h.closed box hbox, if_neg Bool.false_ne_true]
  · rfl

/-- To drop a subscription that was ended gives up no more than what it still holds. -/
theorem Ended.drop (h : Ended id b) :
    b.step (.drop id) = { b with mailboxes := b.mailboxes.remove id } := by
  have hleave : b.unsubscribe id = b := h.unsubscribe
  rw [Broker.step, Broker.drop, hleave]

/-! ## Publications -/

/-- When a mailbox gets its turn in a publication, it is open. -/
theorem Sound.isOpen_of_turn (h : b.Sound) {done rest : List Nat} (n : Notification)
    (hids : b.openFor r = done ++ id :: rest) :
    ∃ box, (offerAll n done b).2.mailboxes.get? id = some box ∧ box.isOpen = true := by
  have hnodup := hids ▸ h.nodup r
  have hdone : id ∉ done := by
    intro hmem
    exact (List.nodup_append.1 hnodup).2.2 id hmem id List.mem_cons_self rfl
  have hmem : id ∈ b.openFor r := by simp [hids]
  obtain ⟨box, hbox, -, hopen⟩ := (h.listed r id).1 hmem
  refine ⟨box, ?_, hopen⟩
  rw [get?_offerAll n (List.nodup_append.1 hnodup).1, if_neg hdone, hbox]

/-! ## Integrity -/

/-- What the registry may be relied on for after some events. -/
structure Integrity (start : Broker) (es : List Event) : Prop where
  /-- Nobody who subscribes is refused, and numbers are given in order. -/
  subscribes : ∀ r, ∃ b, (start.run es).subscribe r = .ok ((start.run es).opened, b)
  /-- A recipient is listed with the subscriptions that stand, and not at all if there are none. -/
  listed : ∀ r ids, (start.run es).registry.get? r = some ids ↔
    ids = standingFor r start es ∧ ids ≠ []
  /-- No number stands in the registry twice. -/
  distinct : ((start.run es).registry.entries.flatMap Prod.snd).Nodup
  counts : ∀ r, (start.run es).subscriberCount r = (standingFor r start es).length
  /-- To end a subscription leaves all others of its recipient, and of anyone else. -/
  apart : ∀ e id, e.Closes id → ∀ r,
    ((start.run es).step e).openFor r = ((start.run es).openFor r).filter (· ≠ id)
  /-- After an unsubscription, however long ago, another one changes nothing, and to drop the
  subscription changes nothing for anyone else. -/
  again : ∀ before after id, es = before ++ .unsubscribe id :: after →
    id < (start.run before).opened → (start.run es).step (.unsubscribe id) = start.run es ∧
      (start.run es).step (.drop id) =
        { start.run es with mailboxes := (start.run es).mailboxes.remove id }
  /-- What is registered is an open mailbox of its recipient. -/
  opens : ∀ r, ∀ id ∈ (start.run es).openFor r, ∃ box,
    (start.run es).mailboxes.get? id = some box ∧ box.recipient = r ∧ box.isOpen = true
  /-- It is still open when a publication has come to it. -/
  meets : ∀ r n done id rest, (start.run es).openFor r = done ++ id :: rest → ∃ box,
    (offerAll n done (start.run es)).2.mailboxes.get? id = some box ∧ box.isOpen = true

/-- **The registry is exactly what it should be**, whoever subscribes and leaves, and in whichever
order. -/
theorem integrity (capacity : Nat) (hcapacity : capacity < tooLarge) (es : List Event) :
    Integrity (new capacity) es := by
  have hstart := sound_new capacity
  have h := hstart.run es
  have hfits : ∀ es, ((new capacity).run es).capacity < tooLarge := by
    intro es
    rw [capacity_run]
    exact Nat.max_lt.2 ⟨hcapacity, by decide⟩
  have hlisted := hstart.openFor_run (fun _ ↦ rfl) es
  have hempty : (new capacity).Compact := fun _ hget ↦ nomatch hget
  have hcompact := hempty.run es
  refine {
    subscribes := fun r ↦ ⟨_, if_pos (hfits es)⟩
    listed := fun r ids ↦ ?_
    distinct := h.nodup_registry
    counts := fun r ↦ congrArg List.length (hlisted r)
    apart := fun e id hcloses r ↦ ?_
    again := fun before after id hes hid ↦ ?_
    opens := fun r id hid ↦ (h.listed r id).1 hid
    meets := fun r n done id rest hids ↦ h.isOpen_of_turn n hids }
  · rw [← hlisted r]
    constructor
    · intro hget
      refine ⟨?_, fun hnil ↦ hcompact r (hnil ▸ hget)⟩
      rw [openFor, hget, Option.getD_some]
    · rintro ⟨rfl, hne⟩
      rw [openFor] at hne ⊢
      cases hget : ((new capacity).run es).registry.get? r with
      | none => simp [hget] at hne
      | some ids => simp
  · have hunique : ∀ id', e.Closes id' ↔ id' = id := by
      intro id'
      rcases hcloses with rfl | rfl
      · simp [Event.Closes, eq_comm]
      · simp [Event.Closes, eq_comm]
    have hne : ∀ r, e ≠ .subscribe r := by
      rintro r rfl
      simp [Event.Closes] at hcloses
    simp only [h.openFor_step_eq hne, hunique, ne_eq]
  · have hopened : ((new capacity).run before).Opened id := ⟨hstart.run before, hfits before, hid⟩
    have hended : Ended id ((new capacity).run es) := by
      rw [hes, run_append]
      exact hopened.ended.run after
    exact ⟨hended.unsubscribe, hended.drop⟩

/-- The first of two subscriptions is ended and comes back, and its old number is used again. -/
def rejoining : List Event :=
  [.subscribe 1, .subscribe 1, .unsubscribe 0, .subscribe 1, .unsubscribe 0, .drop 0]

/-- The second and the third one stay, in this order. -/
theorem integrity_rejoining : 2 < tooLarge ∧ Integrity (new 2) rejoining ∧
    ((new 2).run rejoining).openFor 1 = [1, 2] :=
  ⟨by decide, integrity 2 (by decide) rejoining, rfl⟩

end Broker

end Microblog
