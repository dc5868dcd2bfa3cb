import Mathlib.Data.List.Nodup
import Microblog.Store.Insert

/-!
# What a table holds

A table is known by its members: looking a row up finds the only member with that key, adding puts a
member at the end, keeping is a filter, and changing a row leaves its key and its place.

Many tables have a column that is kept in step with another table.  `Rows.Tallied` says that it is,
and the lemmas below it say what each way to change a table does to such a column.
-/

set_option autoImplicit false

namespace Microblog

namespace Rows

variable {α κ : Type} [Row α κ]

/-- Two members with the same key are the same row. -/
theorem eq_of_key_eq {rows : Rows α} {a b : α} (ha : a ∈ rows.list) (hb : b ∈ rows.list)
    (h : Row.key a = Row.key b) : a = b :=
  List.inj_on_of_nodup_map rows.nodup ha hb h

theorem keep_eq_self {rows : Rows α} {p : α → Bool} (h : ∀ a ∈ rows.list, p a = true) :
    rows.keep p = rows :=
  ext_list (List.filter_eq_self.2 h)

/-- Where nothing is to be taken out, all is kept. -/
theorem keep_not_eq_self {rows : Rows α} {p : α → Bool} (h : (rows.list.filter p).length = 0) :
    (rows.keep fun a ↦ !p a) = rows :=
  keep_eq_self fun a ha ↦ by
    rw [Bool.not_eq_true', ← Bool.not_eq_true]
    exact List.filter_eq_nil_iff.1 (List.length_eq_zero_iff.1 h) a ha

@[simp] theorem mem_keep {rows : Rows α} {p : α → Bool} {a : α} :
    a ∈ (rows.keep p).list ↔ a ∈ rows.list ∧ p a = true :=
  List.mem_filter

/-- A table from which the one row that was added is taken out again is the table before. -/
theorem keep_new {rows rows' : Rows α} {a : α} {p : α → Bool}
    (hl : rows'.list = rows.list ++ [a]) (ha : p a = false) (hp : ∀ b ∈ rows.list, p b = true) :
    rows'.keep p = rows :=
  ext_list (by
    show rows'.list.filter p = rows.list
    rw [hl, List.filter_append, List.filter_eq_self.2 hp, List.filter_singleton, ha]
    exact List.append_nil _)

/-- Changing the rows in a way that leaves each as it is changes nothing. -/
theorem eq_of_map {rows rows' : Rows α} {f : α → α} (hl : rows'.list = rows.list.map f)
    (hf : ∀ a ∈ rows.list, f a = a) : rows' = rows :=
  ext_list (by rw [hl, List.map_congr_left hf, List.map_id'])

/-- The rows with `p` are those that are kept and those that are not. -/
theorem countP_keep (rows : Rows α) (p q : α → Bool) :
    rows.list.countP p = (rows.keep q).list.countP p + rows.list.countP fun a ↦ p a && !q a := by
  rw [List.countP_eq_countP_filter_add rows.list p q]
  exact congrArg _ List.countP_filter

/-- If `a` is the one row with `p`, filtering by `p` leaves just `a`. -/
theorem filter_eq_singleton {rows : Rows α} {a : α} {p : α → Bool} (ha : a ∈ rows.list)
    (hp : ∀ b ∈ rows.list, p b = true ↔ b = a) : rows.list.filter p = [a] := by
  obtain ⟨l, m, hl⟩ := List.append_of_mem ha
  have hnodup : rows.list.Nodup := rows.nodup.of_map
  rw [hl, List.nodup_append, List.nodup_cons] at hnodup
  obtain ⟨-, ⟨hm, -⟩, hdisj⟩ := hnodup
  rw [hl] at hp ⊢
  have hl0 : l.filter p = [] := List.filter_eq_nil_iff.2 fun b hb hpb ↦
    hdisj b hb a List.mem_cons_self ((hp b (List.mem_append_left _ hb)).1 hpb)
  have hm0 : m.filter p = [] := List.filter_eq_nil_iff.2 fun b hb hpb ↦
    hm ((hp b (List.mem_append_right _ (List.mem_cons_of_mem _ hb))).1 hpb ▸ hb)
  rw [List.filter_append, List.filter_cons_of_pos ((hp a (by simp)).2 rfl), hl0, hm0,
    List.nil_append]

/-- If no row but `a` may have `p`, the number of rows with `p` is one or zero. -/
theorem countP_of_unique {rows : Rows α} {a : α} {p : α → Bool} (ha : a ∈ rows.list)
    (hp : ∀ b ∈ rows.list, p b = true → b = a) :
    rows.list.countP p = if p a then 1 else 0 := by
  split
  · rename_i hpa
    have h : rows.list.filter p = [a] :=
      filter_eq_singleton ha fun b hb ↦ ⟨hp b hb, fun hba ↦ hba ▸ hpa⟩
    rw [List.countP_eq_length_filter, h, List.length_singleton]
  · rename_i hpa
    exact List.countP_eq_zero.2 fun b hb hpb ↦ hpa (hp b hb hpb ▸ hpb)

section Lookup

variable [DecidableEq κ]

/-- Looking a key up finds the one row that has it. -/
theorem get?_eq_some_iff {rows : Rows α} {k : κ} {a : α} :
    rows.get? k = some a ↔ a ∈ rows.list ∧ Row.key a = k := by
  constructor
  · intro h
    exact ⟨List.mem_of_find?_eq_some h, by simpa using List.find?_some h⟩
  · rintro ⟨ha, rfl⟩
    cases hb : rows.get? (Row.key a) with
    | none => exact absurd (List.find?_eq_none.1 hb a ha) (by simp)
    | some b =>
      have hkey : Row.key b = Row.key a := by simpa using List.find?_some hb
      rw [eq_of_key_eq (List.mem_of_find?_eq_some hb) ha hkey]

theorem has_iff {rows : Rows α} {k : κ} :
    rows.has k = true ↔ ∃ a ∈ rows.list, Row.key a = k := by
  rw [has, Option.isSome_iff_exists]
  exact exists_congr fun a ↦ get?_eq_some_iff

/-- Keys are unique, so that no other row with the key comes to light. -/
theorem get?_keep {rows : Rows α} {p : α → Bool} {k : κ} :
    (rows.keep p).get? k = (rows.get? k).filter p := by
  refine Option.ext fun a ↦ ?_
  rw [get?_eq_some_iff, mem_keep, Option.filter_eq_some_iff, get?_eq_some_iff, and_right_comm]

/-- What is not to be taken out is still there. -/
theorem has_keep {rows : Rows α} {p : α → Bool} {k : κ} (h : rows.has k = true)
    (hp : ∀ a, Row.key a = k → p a = true) : (rows.keep p).has k = true := by
  obtain ⟨a, ha, hk⟩ := has_iff.1 h
  exact has_iff.2 ⟨a, mem_keep.2 ⟨ha, hp a hk⟩, hk⟩

/-- A row that was added stands at the end, and its key was free. -/
theorem of_addRow {rows rows' : Rows α} {a : α} (h : addRow rows a = .ok rows') :
    rows'.list = rows.list ++ [a] ∧ rows.has (Row.key a) = false := by
  rw [addRow, add?] at h
  split at h
  · simp at h
  · rename_i hk
    simp only [Option.elim_some, Except.ok.injEq] at h
    refine ⟨by rw [← h], ?_⟩
    rw [← Bool.not_eq_true, has_iff]
    rintro ⟨b, hb, hba⟩
    exact hk (List.mem_map.2 ⟨b, hb, hba⟩)

/-- Adding rows loses none. -/
theorem has_of_append {rows rows' : Rows α} {l : List α} {k : κ}
    (hl : rows'.list = rows.list ++ l) (h : rows.has k = true) : rows'.has k = true := by
  obtain ⟨a, ha, hk⟩ := has_iff.1 h
  exact has_iff.2 ⟨a, hl ▸ List.mem_append_left _ ha, hk⟩

/-- A row that is new has a key that was not there before, and is there now. -/
theorem has_new {rows rows' : Rows α} {a : α} (hl : rows'.list = rows.list ++ [a]) :
    rows.has (Row.key a) = false ∧ rows'.has (Row.key a) = true := by
  refine ⟨Bool.eq_false_iff.2 fun hhas ↦ ?_, has_iff.2 ⟨a, by simp [hl], rfl⟩⟩
  have hnodup := rows'.nodup
  rw [hl, List.map_append, List.map_singleton] at hnodup
  obtain ⟨b, hb, hkey⟩ := has_iff.1 hhas
  exact List.disjoint_of_nodup_append hnodup (List.mem_map.2 ⟨b, hb, hkey⟩)
    (List.mem_singleton_self _)

/-- Of a table to which one row was added, only that row is new. -/
theorem filter_new {rows rows' : Rows α} {a : α} (hl : rows'.list = rows.list ++ [a]) :
    (rows'.list.filter fun b ↦ !rows.has (Row.key b)) = [a] := by
  have ha : a ∈ rows'.list := hl ▸ List.mem_append_right _ List.mem_cons_self
  refine filter_eq_singleton ha fun b hb ↦ ?_
  rw [Bool.not_eq_true', Bool.eq_false_iff, ne_eq, has_iff]
  constructor
  · intro hnew
    rcases List.mem_append.1 (hl ▸ hb) with hold | hb
    · exact absurd ⟨b, hold, rfl⟩ hnew
    · exact List.mem_singleton.1 hb
  · rintro rfl ⟨c, hc, hkey⟩
    -- the row that was added would stand in the table twice
    have hcb : c = b := eq_of_key_eq (hl ▸ List.mem_append_left _ hc) hb hkey
    have hnodup : (rows.list ++ [b]).Nodup := hl ▸ rows'.nodup.of_map
    exact (List.nodup_append.1 hnodup).2.2 c hc b List.mem_cons_self hcb

/-! ## Changing a row -/

section Change

variable {rows : Rows α} {k : κ} {f : α → α} {hf : ∀ a, Row.key (f a) = Row.key a}

theorem list_changeAt :
    (rows.changeAt k f hf).list = rows.list.map fun a ↦ if Row.key a = k then f a else a :=
  rfl

/-- The members after a change: each stands for one that was there before. -/
theorem mem_changeAt {a : α} :
    a ∈ (rows.changeAt k f hf).list ↔
      ∃ b ∈ rows.list, a = if Row.key b = k then f b else b := by
  rw [list_changeAt, List.mem_map]
  exact exists_congr fun b ↦ and_congr_right fun _ ↦ eq_comm

variable (hf) in
/-- Changing rows keeps what is true of each of them and does not depend on what is changed. -/
theorem forall_changeAt {P : α → Prop} (hP : ∀ a, P a → P (f a)) (h : ∀ a ∈ rows.list, P a) :
    ∀ a ∈ (rows.changeAt k f hf).list, P a := by
  intro a ha
  obtain ⟨b, hb, rfl⟩ := mem_changeAt.1 ha
  split
  · exact hP b (h b hb)
  · exact h b hb

@[simp] theorem has_changeAt {k' : κ} : (rows.changeAt k f hf).has k' = rows.has k' := by
  rw [Bool.eq_iff_iff, has_iff, has_iff]
  constructor
  · rintro ⟨a, ha, rfl⟩
    obtain ⟨b, hb, rfl⟩ := mem_changeAt.1 ha
    refine ⟨b, hb, ?_⟩
    split
    · exact (hf b).symm
    · rfl
  · rintro ⟨a, ha, rfl⟩
    refine ⟨_, mem_changeAt.2 ⟨a, ha, rfl⟩, ?_⟩
    split
    · exact hf a
    · rfl

/-- What is found after a change is what was found before, changed if it is the row. -/
theorem get?_changeAt {k' : κ} : (rows.changeAt k f hf).get? k' =
    (rows.get? k').map fun a ↦ if k' = k then f a else a := by
  refine Option.ext fun a ↦ ?_
  rw [get?_eq_some_iff, mem_changeAt, Option.map_eq_some_iff]
  constructor
  · rintro ⟨⟨b, hb, rfl⟩, hkey⟩
    have hkey' : Row.key b = k' := by
      split at hkey
      · rw [← hkey, hf]
      · exact hkey
    exact ⟨b, get?_eq_some_iff.2 ⟨hb, hkey'⟩, by rw [hkey']⟩
  · rintro ⟨b, hget, rfl⟩
    obtain ⟨hb, rfl⟩ := get?_eq_some_iff.1 hget
    refine ⟨⟨b, hb, rfl⟩, ?_⟩
    split
    · exact hf b
    · rfl

/-- A change that `p` does not look at leaves the number of rows with `p`. -/
theorem countP_changeAt {p : α → Bool} (hp : ∀ a, p (f a) = p a) :
    (rows.changeAt k f hf).list.countP p = rows.list.countP p := by
  rw [list_changeAt, List.countP_map]
  refine List.countP_congr fun a _ ↦ ?_
  show p (if Row.key a = k then f a else a) = true ↔ p a = true
  split
  · rw [hp]
  · rfl

end Change

end Lookup

/-! ## Rows that name a number

A column of a table may name rows of another one. -/

/-- How many rows name `k` in a column, which may be empty. -/
def naming {ι : Type} [DecidableEq ι] (rows : Rows α) (column : α → Option ι) (k : ι) : Nat :=
  rows.list.countP fun a ↦ column a = some k

section Naming

variable {ι : Type} [DecidableEq ι] {rows rows' : Rows α} {column : α → Option ι} {k : ι}

theorem naming_eq_zero (h : ∀ a ∈ rows.list, column a ≠ some k) : rows.naming column k = 0 :=
  List.countP_eq_zero.2 fun a ha hk ↦ h a ha (of_decide_eq_true hk)

theorem naming_pos {a : α} (ha : a ∈ rows.list) (hk : column a = some k) :
    0 < rows.naming column k :=
  List.countP_pos_iff.2 ⟨a, ha, decide_eq_true hk⟩

theorem naming_append {a : α} (hl : rows'.list = rows.list ++ [a]) :
    rows'.naming column k = rows.naming column k + if column a = some k then 1 else 0 := by
  rw [naming, naming, hl, List.countP_append, List.countP_singleton]
  simp only [decide_eq_true_eq]

/-- If `a` is the only row that goes and names `k`, the rest makes up for it. -/
theorem naming_keep {a : α} {q : α → Bool} (ha : a ∈ rows.list) (hgone : q a = false)
    (honly : ∀ b ∈ rows.list, column b = some k → q b = false → b = a) :
    rows.naming column k =
      (rows.keep q).naming column k + if column a = some k then 1 else 0 := by
  rw [naming, naming, countP_keep rows _ q, countP_of_unique ha fun b hb hpb ↦ ?_]
  · simp [hgone]
  · simp only [Bool.and_eq_true, decide_eq_true_eq, Bool.not_eq_true'] at hpb
    exact honly b hb hpb.1 hpb.2

theorem naming_keep_eq {q : α → Bool} (h : ∀ b ∈ rows.list, column b = some k → q b = true) :
    (rows.keep q).naming column k = rows.naming column k := by
  have hnone : rows.list.countP (fun a ↦ decide (column a = some k) && !q a) = 0 := by
    refine List.countP_eq_zero.2 fun b hb hpb ↦ ?_
    simp only [Bool.and_eq_true, decide_eq_true_eq, Bool.not_eq_true'] at hpb
    exact Bool.false_ne_true (hpb.2.symm.trans (h b hb hpb.1))
  rw [naming, naming, countP_keep rows _ q, hnone, Nat.add_zero]

theorem naming_map {f : α → α} (hl : rows'.list = rows.list.map f)
    (hc : ∀ a, column (f a) = column a) : rows'.naming column = rows.naming column := by
  funext k
  rw [naming, naming, hl, List.countP_map]
  exact List.countP_congr fun a _ ↦ by simp only [Function.comp_apply, hc]

theorem naming_changeAt [DecidableEq κ] {i : κ} {f : α → α} (hf : ∀ a, Row.key (f a) = Row.key a)
    (hc : ∀ a, column (f a) = column a) :
    (rows.changeAt i f hf).naming column = rows.naming column :=
  funext fun k ↦ countP_changeAt fun a ↦ by rw [hc]

end Naming

/-! ## Columns that are kept in step

A column is in step with another table when it says of each row how many rows there belong to its
key. -/

/-- The counter of each row, which `count` reads, is the total that belongs to its key. -/
def Tallied (rows : Rows α) (count : α → Cell) (total : κ → Nat) : Prop :=
  ∀ a ∈ rows.list, count a = .int (total (Row.key a))

namespace Tallied

variable {rows : Rows α} {count : α → Cell} {total total' : κ → Nat}

theorem congr (h : Tallied rows count total)
    (ht : ∀ a ∈ rows.list, total' (Row.key a) = total (Row.key a)) :
    Tallied rows count total' := fun a ha ↦ by rw [h a ha, ht a ha]

theorem append {rows' : Rows α} {a : α} (h : Tallied rows count total)
    (hl : rows'.list = rows.list ++ [a]) (ha : count a = .int (total (Row.key a))) :
    Tallied rows' count total := by
  intro b hb
  rw [hl, List.mem_append, List.mem_singleton] at hb
  rcases hb with hb | rfl
  · exact h b hb
  · exact ha

/-- Where the total has stayed, so has the counter. -/
theorem count_map {rows' : Rows α} {f : α → α} (h : Tallied rows count total)
    (h' : Tallied rows' count total) (hl : rows'.list = rows.list.map f)
    (hkey : ∀ a, Row.key (f a) = Row.key a) : ∀ a ∈ rows.list, count (f a) = count a := by
  intro a ha
  rw [h' _ (hl ▸ List.mem_map_of_mem ha), hkey, h a ha]

theorem keep {p : α → Bool} (h : Tallied rows count total) : Tallied (rows.keep p) count total :=
  fun a ha ↦ h a (mem_keep.1 ha).1

variable [DecidableEq κ] {k : κ} {f : α → α} (hf : ∀ a, Row.key (f a) = Row.key a)

/-- A change of the counter of one row, whose total changes with it. -/
theorem changeAt (h : Tallied rows count total)
    (hk : ∀ a ∈ rows.list, Row.key a = k → count (f a) = .int (total' k))
    (ht : ∀ a ∈ rows.list, Row.key a ≠ k → total' (Row.key a) = total (Row.key a)) :
    Tallied (rows.changeAt k f hf) count total' := by
  intro a ha
  obtain ⟨b, hb, rfl⟩ := mem_changeAt.1 ha
  by_cases hbk : Row.key b = k
  · rw [if_pos hbk, hk b hb hbk, hf, hbk]
  · rw [if_neg hbk, h b hb, ht b hb hbk]

omit hf in
/-- A row of which at most the counter was touched is the same as before, if what is counted is. -/
theorem restored {rows' : Rows α} (h : Tallied rows count total)
    (h' : Tallied rows' count total)
    (hl : rows'.list = rows.list.map fun a ↦ if Row.key a = k then f a else a)
    (hf : ∀ a, Row.key (f a) = Row.key a) (hcount : ∀ a, count (f a) = count a → f a = a) :
    rows' = rows := by
  have hsame := h.count_map h' hl fun a ↦ by split <;> [exact hf a; rfl]
  refine eq_of_map hl fun a ha ↦ ?_
  have hcounted := hsame a ha
  by_cases hk : Row.key a = k
  · rw [if_pos hk] at hcounted ⊢
    exact hcount a hcounted
  · rw [if_neg hk]

/-- A change of something else than the counter. -/
theorem changeAt_other (h : Tallied rows count total) (hc : ∀ a, count (f a) = count a) :
    Tallied (rows.changeAt k f hf) count total := by
  refine h.changeAt hf (fun a ha hk ↦ ?_) fun _ _ _ ↦ rfl
  rw [hc, h a ha, hk]

/-- What is counted may be in the table that is changed, if the change leaves that column. -/
theorem recounted {column : α → Option κ} (hn : ∀ a, column (f a) = column a)
    (h : Tallied (rows.changeAt k f hf) count (rows.naming column)) :
    Tallied (rows.changeAt k f hf) count ((rows.changeAt k f hf).naming column) := by
  rwa [naming_changeAt hf hn]

/-- A change of neither the counter nor what is counted. -/
theorem changeAt_self {column : α → Option κ} (h : Tallied rows count (rows.naming column))
    (hc : ∀ a, count (f a) = count a) (hn : ∀ a, column (f a) = column a) :
    Tallied (rows.changeAt k f hf) count ((rows.changeAt k f hf).naming column) :=
  recounted hf hn (h.changeAt_other hf hc)

/-- A counter that goes up by one, together with what it counts. -/
theorem increment (h : Tallied rows count total) (hc : ∀ a, count (f a) = (count a).increment)
    (ht : ∀ a ∈ rows.list,
      total' (Row.key a) = total (Row.key a) + if some k = some (Row.key a) then 1 else 0)
    (hfits : Text.Decimal.Fits (total' k)) : Tallied (rows.changeAt k f hf) count total' := by
  refine h.changeAt hf (fun a ha hk ↦ ?_) fun a ha hk ↦ ?_
  · have hup : total' k = total k + 1 := by simpa [hk] using ht a ha
    rw [hc, h a ha, hk, hup, Cell.increment, Cell.add_int]
    · rw [Int.natCast_add, Int.natCast_one]
    · rwa [hup, Int.natCast_add, Int.natCast_one] at hfits
  · rw [ht a ha, if_neg fun h ↦ hk (Option.some.inj h).symm, Nat.add_zero]

/-- A counter that goes down by one, together with what it counts. -/
theorem decrement (h : Tallied rows count total) (hc : ∀ a, count (f a) = (count a).decrement)
    (ht : ∀ a ∈ rows.list,
      total (Row.key a) = total' (Row.key a) + if some k = some (Row.key a) then 1 else 0)
    (hfits : Text.Decimal.Fits (total' k)) : Tallied (rows.changeAt k f hf) count total' := by
  refine h.changeAt hf (fun a ha hk ↦ ?_) fun a ha hk ↦ ?_
  · have hdown : total k = total' k + 1 := by simpa [hk] using ht a ha
    have hless : ((total' k + 1 : Nat) : Int) - 1 = (total' k : Int) := by omega
    rw [hc, h a ha, hk, hdown, Cell.decrement_int (by rwa [hless]), hless,
      Int.max_eq_left (Int.natCast_nonneg _)]
  · rw [ht a ha, if_neg fun h ↦ hk (Option.some.inj h).symm, Nat.add_zero]

end Tallied

end Rows

end Microblog
