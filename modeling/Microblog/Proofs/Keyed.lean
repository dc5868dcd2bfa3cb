import Mathlib.Data.List.Nodup
import Mathlib.Data.Set.Card
import Microblog.Keyed

/-!
# Looking up in finite maps

What `get?` finds after `put`, `keep` and `remove`.  A lookup depends on the entries as a set only,
as no key stands in a map twice (`get?_eq_some_iff`), and so a map has as many entries as it has
keys (`encard_keys`).
-/

set_option autoImplicit false

namespace Microblog

namespace Keyed

variable {κ α : Type} [DecidableEq κ] {m : Keyed κ α} {k k' : κ} {a b : α}

theorem get?_eq_some_iff : m.get? k = some a ↔ (k, a) ∈ m.entries := by
  rw [get?, Option.map_eq_some_iff]
  constructor
  · rintro ⟨e, he, rfl⟩
    have hkey : e.1 = k := by simpa using List.find?_some he
    exact hkey ▸ List.mem_of_find?_eq_some he
  · intro hmem
    cases hfind : m.entries.find? fun e ↦ e.1 = k with
    | none => exact absurd (List.find?_eq_none.1 hfind _ hmem) (by simp)
    | some e =>
      have hkey : e.1 = k := by simpa using List.find?_some hfind
      have he : e = (k, a) :=
        List.inj_on_of_nodup_map m.nodup (List.mem_of_find?_eq_some hfind) hmem hkey
      exact ⟨e, rfl, by rw [he]⟩

theorem find?_putEntry (es : List (κ × α)) :
    (putEntry k a es).find? (fun e ↦ e.1 = k') =
      if k' = k then some (k, a) else es.find? fun e ↦ e.1 = k' := by
  induction es with
  | nil =>
    rw [putEntry, List.find?_singleton]
    by_cases h : k' = k
    · simp [h]
    · simp [h, Ne.symm h]
  | cons e es ih =>
    rw [putEntry]
    by_cases he : e.1 = k
    · rw [if_pos he, List.find?_cons, List.find?_cons, he]
      by_cases h : k' = k
      · simp [h]
      · simp [h, Ne.symm h]
    · rw [if_neg he, List.find?_cons, ih, List.find?_cons]
      by_cases h : k' = k
      · simp [h, he]
      · simp [h]

theorem get?_put : (m.put k a).get? k' = if k' = k then some a else m.get? k' := by
  rw [get?, put, find?_putEntry]
  split
  · rfl
  · rfl

@[simp] theorem get?_put_self : (m.put k a).get? k = some a := by rw [get?_put, if_pos rfl]

theorem get?_put_of_ne (h : k' ≠ k) : (m.put k a).get? k' = m.get? k' := by rw [get?_put, if_neg h]

theorem get?_keep {p : κ → α → Bool} :
    (m.keep p).get? k = (m.get? k).filter (p k) := by
  refine Option.ext fun a ↦ ?_
  rw [get?_eq_some_iff, Option.filter_eq_some_iff, get?_eq_some_iff, keep, List.mem_filter]

theorem get?_remove : (m.remove k).get? k' = if k' = k then none else m.get? k' := by
  rw [remove, get?_keep]
  by_cases h : k' = k
  · cases m.get? k' <;> simp [h]
  · cases m.get? k' <;> simp [h]

theorem putEntry_eq_self {es : List (κ × α)} (hnodup : (es.map Prod.fst).Nodup)
    (hmem : (k, a) ∈ es) : putEntry k a es = es := by
  induction es with
  | nil => cases hmem
  | cons e es ih =>
    obtain ⟨he, hnodup⟩ := List.nodup_cons.1 hnodup
    rw [putEntry]
    rcases List.mem_cons.1 hmem with rfl | hmem
    · rw [if_pos rfl]
    · have hne : e.1 ≠ k := fun hkey ↦ he (hkey ▸ List.mem_map_of_mem (f := Prod.fst) hmem)
      rw [if_neg hne, ih hnodup hmem]

/-- To put what is there already changes nothing. -/
theorem put_eq_self (h : m.get? k = some a) : m.put k a = m := by
  have hmem := get?_eq_some_iff.1 h
  cases m with
  | mk entries hnodup =>
    rw [put, Keyed.mk.injEq]
    exact putEntry_eq_self hnodup hmem

/-! ## Sizes -/

/-- The size of a map is the number of its keys. -/
theorem encard_keys (m : Keyed κ α) : {k | ∃ a, m.get? k = some a}.encard = m.size := by
  have hkeys : {k | ∃ a, m.get? k = some a} = ((m.entries.map Prod.fst).toFinset : Set κ) := by
    ext k
    simp [get?_eq_some_iff]
  rw [hkeys, Set.encard_coe_eq_coe_finsetCard, List.toFinset_card_of_nodup m.nodup,
    List.length_map, size]

omit [DecidableEq κ] in
/-- The entries that are not kept are the others. -/
theorem size_sub_size_keep (m : Keyed κ α) (p : κ → α → Bool) :
    m.size - (m.keep p).size = (m.keep fun k a ↦ !p k a).size := by
  rw [size, size, size, keep, keep,
    List.length_eq_length_filter_add (fun e : κ × α ↦ p e.1 e.2), Nat.add_sub_cancel_left]

end Keyed

end Microblog
