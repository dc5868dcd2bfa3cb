/-!
# Finite maps

A `Keyed κ α` holds a value for each of finitely many keys, in the order in which the keys were
first put.  No key stands in it twice; this is part of the type.
-/

set_option autoImplicit false

namespace Microblog

/-- A finite map, as the list of its entries. -/
structure Keyed (κ α : Type) where
  /-- The keys with their values, in the order in which the keys were first put. -/
  entries : List (κ × α)
  /-- No key stands in the map twice. -/
  nodup : (entries.map Prod.fst).Nodup

namespace Keyed

variable {κ α : Type} [DecidableEq κ]

/-- The map without entries. -/
def empty : Keyed κ α := ⟨[], List.nodup_nil⟩

instance : Inhabited (Keyed κ α) := ⟨empty⟩

/-- The number of keys. -/
def size (m : Keyed κ α) : Nat := m.entries.length

/-- The value of a key. -/
def get? (m : Keyed κ α) (k : κ) : Option α := (m.entries.find? fun e ↦ e.1 = k).map (·.2)

/-- Replace the value of `k` in a list of entries, or add an entry at the end. -/
def putEntry (k : κ) (a : α) : List (κ × α) → List (κ × α)
  | [] => [(k, a)]
  | e :: es => if e.1 = k then (k, a) :: es else e :: putEntry k a es

theorem map_fst_putEntry (k : κ) (a : α) (es : List (κ × α)) :
    (putEntry k a es).map Prod.fst =
      if k ∈ es.map Prod.fst then es.map Prod.fst else es.map Prod.fst ++ [k] := by
  induction es with
  | nil => simp [putEntry]
  | cons e es ih =>
    by_cases h : e.1 = k
    · simp [putEntry, h]
    · rw [putEntry, if_neg h, List.map_cons, ih]
      by_cases hk : k ∈ es.map Prod.fst
      · rw [if_pos hk, if_pos (by simp only [List.map_cons]; exact List.mem_cons_of_mem _ hk)]
        simp
      · rw [if_neg hk, if_neg (by
          simp only [List.map_cons, List.mem_cons, not_or]
          exact ⟨fun hc ↦ h hc.symm, hk⟩)]
        simp

/-- Give the key `k` the value `a`. -/
def put (k : κ) (a : α) (m : Keyed κ α) : Keyed κ α where
  entries := putEntry k a m.entries
  nodup := by
    rw [map_fst_putEntry]
    split
    · exact m.nodup
    · rename_i h
      exact List.nodup_append.2 ⟨m.nodup, List.nodup_cons.2 ⟨List.not_mem_nil, List.nodup_nil⟩,
        fun x hx y hy hxy ↦ h (by rw [List.mem_singleton.1 hy] at hxy; exact hxy ▸ hx)⟩

/-- Keep the entries that satisfy `p`. -/
def keep (p : κ → α → Bool) (m : Keyed κ α) : Keyed κ α where
  entries := m.entries.filter fun e ↦ p e.1 e.2
  nodup := m.nodup.sublist (List.filter_sublist.map Prod.fst)

/-- Take the key `k` out of the map. -/
def remove (k : κ) (m : Keyed κ α) : Keyed κ α := m.keep fun k' _ ↦ k' ≠ k

end Keyed

end Microblog
