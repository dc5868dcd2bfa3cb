/-!
# Tables

A table is a list of rows, oldest first, in which no two rows have the same key.  That the keys
differ is part of the type, so every operation here keeps it.
-/

set_option autoImplicit false

namespace Microblog

/-- What tells a row from the others of its table. -/
class Row (α : Type) (κ : outParam Type) where
  key : α → κ

/-- The rows of a table, oldest first. -/
structure Rows (α : Type) {κ : Type} [Row α κ] where
  list : List α
  /-- No two rows have the same key. -/
  nodup : (list.map Row.key).Nodup

namespace Rows

variable {α κ : Type} [Row α κ]

/-- The table without rows. -/
def empty : Rows α := ⟨[], List.nodup_nil⟩

instance : Inhabited (Rows α) := ⟨empty⟩

theorem ext_list {r s : Rows α} (h : r.list = s.list) : r = s := by
  cases r; cases s; cases h; rfl

/-- The row with a key. -/
def get? [DecidableEq κ] (rows : Rows α) (k : κ) : Option α :=
  rows.list.find? fun a ↦ Row.key a = k

/-- Whether a row has the key. -/
def has [DecidableEq κ] (rows : Rows α) (k : κ) : Bool := (rows.get? k).isSome

/-- Add a row at the end, unless its key is taken. -/
def add? [DecidableEq κ] (rows : Rows α) (a : α) : Option (Rows α) :=
  if h : Row.key a ∈ rows.list.map Row.key then none
  else some ⟨rows.list ++ [a], by
    rw [List.map_append, List.map_singleton]
    exact List.nodup_append.2 ⟨rows.nodup, List.nodup_cons.2 ⟨List.not_mem_nil, List.nodup_nil⟩,
      fun x hx y hy hxy ↦ h (by rw [List.mem_singleton.1 hy] at hxy; exact hxy ▸ hx)⟩⟩

/-- The rows that satisfy `p`. -/
def keep (rows : Rows α) (p : α → Bool) : Rows α where
  list := rows.list.filter p
  nodup := rows.nodup.sublist (List.filter_sublist.map Row.key)

/-- Change rows by `f`, which leaves their keys as they are. -/
def change (rows : Rows α) (f : α → α) (hf : ∀ a, Row.key (f a) = Row.key a) : Rows α where
  list := rows.list.map f
  nodup := by
    rw [List.map_map, show Row.key ∘ f = (Row.key : α → κ) from funext hf]
    exact rows.nodup

/-- Change the row with the key `k` by `f`, which leaves keys as they are. -/
def changeAt [DecidableEq κ] (rows : Rows α) (k : κ) (f : α → α)
    (hf : ∀ a, Row.key (f a) = Row.key a) : Rows α :=
  rows.change (fun a ↦ if Row.key a = k then f a else a) fun a ↦ by
    show Row.key (if _ then _ else _) = _
    split
    · exact hf a
    · rfl

end Rows

end Microblog
