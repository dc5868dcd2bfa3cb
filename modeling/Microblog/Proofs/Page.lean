import Mathlib.Data.List.Nodup
import Microblog.Page

/-!
# Pages are windows

A page of a listing is a window on it: the rows from some position on, at most so many of them.

* A page that a request may ask for has a window whose bounds are the plain products of its numbers
  (`Page.of_eq_take_drop`), because `Page.request` refuses what would have to be cut to 64 bits.
* The windows of one size follow each other without gaps (`flatten_windows`), and what stands in the
  listing once stands in exactly one of them (`existsUnique_window`).
-/

set_option autoImplicit false

namespace Microblog

open Text

namespace Page

/-- What a request has to ask for to be given a page, and which one it is given. -/
theorem request_eq_ok_iff {page size : Option Int} {p : Page} :
    request page size = .ok p ↔ 0 ≤ page.getD 0 ∧ 1 ≤ size.getD defaultSize ∧
      Decimal.Fits (page.getD 0 * min (size.getD defaultSize) maxSize) ∧
      p = ⟨page.getD 0, min (size.getD defaultSize) maxSize⟩ := by
  rw [request]
  dsimp only
  split
  · simp only [reduceCtorEq, false_iff, not_and]
    omega
  · split
    · simp only [reduceCtorEq, false_iff, not_and]
      omega
    · split
      · rename_i hpage hsize hfits
        rw [Except.ok.injEq, eq_comm]
        exact ⟨fun h ↦ ⟨by omega, by omega, hfits, h⟩, fun h ↦ h.2.2.2⟩
      · rename_i hfits
        simp only [reduceCtorEq, false_iff, not_and]
        exact fun _ _ h ↦ absurd h hfits

/-- A page that some request may ask for. -/
def Allowed (p : Page) : Prop := ∃ page size, request page size = .ok p

/-- The pages that may be asked for are those of up to fifty rows whose offset has 64 bits. -/
theorem allowed_iff {p : Page} : p.Allowed ↔ ∃ n k : Nat, p = ⟨n, k⟩ ∧ 1 ≤ k ∧ k ≤ 50 ∧
    ((n * k : Nat) : Int) ≤ Decimal.greatest := by
  constructor
  · rintro ⟨page, size, h⟩
    obtain ⟨hpage, hsize, ⟨-, hfits⟩, rfl⟩ := request_eq_ok_iff.1 h
    have hmax : maxSize = 50 := rfl
    refine ⟨(page.getD 0).toNat, (min (size.getD defaultSize) maxSize).toNat, ?_, ?_, ?_, ?_⟩
    · rw [Int.toNat_of_nonneg hpage, Int.toNat_of_nonneg (by omega)]
    · omega
    · omega
    · rw [Int.natCast_mul, Int.toNat_of_nonneg hpage, Int.toNat_of_nonneg (by omega)]
      exact hfits
  · rintro ⟨n, k, rfl, hk, hmax, hfits⟩
    have hmin : min (k : Int) maxSize = k := Int.min_eq_left (by rw [maxSize]; omega)
    have hleast : Decimal.least ≤ 0 := by decide
    refine ⟨some n, some k, request_eq_ok_iff.2 ⟨Int.natCast_nonneg n, ?_, ?_, ?_⟩⟩
    · show (1 : Int) ≤ k
      omega
    · show Decimal.Fits ((n : Int) * min (k : Int) maxSize)
      rw [hmin, ← Int.natCast_mul]
      exact ⟨by omega, hfits⟩
    · show (⟨n, k⟩ : Page) = ⟨n, min (k : Int) maxSize⟩
      rw [hmin]

theorem of_nil {α : Type} (p : Page) : p.of ([] : List α) = [] := by
  rw [of, limited, List.drop_nil, List.take_nil, ite_self]

theorem length_of_le {α : Type} (n : Int) (size : Nat) (rows : List α) :
    (Page.of ⟨n, size⟩ rows).length ≤ size := by
  rw [Page.of, limited, Page.limit, if_neg (by simp)]
  exact List.length_take_le _ _

/-- A page that may be asked for has fifty rows at most. -/
theorem Allowed.length_of_le {p : Page} (h : p.Allowed) {α : Type} (rows : List α) :
    (p.of rows).length ≤ 50 := by
  obtain ⟨n, k, rfl, -, hmax, -⟩ := allowed_iff.1 h
  exact Nat.le_trans (Page.length_of_le n k rows) hmax

/-- A page is a window on a listing, if its offset has 64 bits or the listing has no more rows than
there are numbers. -/
theorem of_eq_take_drop {α : Type} {rows : List α} {n size : Nat}
    (h : (rows.length : Int) ≤ Decimal.greatest ∨ ((n * size : Nat) : Int) ≤ Decimal.greatest) :
    Page.of ⟨n, size⟩ rows = (rows.drop (n * size)).take size := by
  have hoffset : rows.drop (Page.offset ⟨n, size⟩).toNat = rows.drop (n * size) := by
    have hcast : ((n * size : Nat) : Int) = n * size := Int.natCast_mul n size
    have hleast : Decimal.least ≤ 0 := by decide
    rw [List.drop_eq_drop_iff, Page.offset, clamp, ← hcast]
    omega
  rw [Page.of, limited, Page.limit, if_neg (by simp), hoffset]
  rfl

end Page

/-! ## Windows -/

section Windows

variable {α : Type}

/-- Windows of one size follow each other without gaps. -/
theorem flatten_windows (rows : List α) (n size : Nat) :
    ((List.range n).map fun i ↦ (rows.drop (i * size)).take size).flatten =
      rows.take (n * size) := by
  induction n with
  | zero => simp
  | succ n ih =>
    rw [List.range_succ, List.map_append, List.flatten_append, ih, Nat.succ_mul, List.take_add]
    simp

theorem mem_window_iff {rows : List α} {start size : Nat} {a : α} :
    a ∈ (rows.drop start).take size ↔ ∃ i, start ≤ i ∧ i < start + size ∧ rows[i]? = some a := by
  rw [List.mem_iff_getElem?]
  constructor
  · rintro ⟨i, hi⟩
    rw [List.getElem?_take] at hi
    split at hi
    · rename_i hlt
      rw [List.getElem?_drop] at hi
      exact ⟨start + i, by omega, by omega, hi⟩
    · cases hi
  · rintro ⟨i, hle, hlt, hi⟩
    refine ⟨i - start, ?_⟩
    rw [List.getElem?_take, if_pos (by omega), List.getElem?_drop, Nat.add_sub_cancel' hle, hi]

/-- What stands in a listing once is in exactly one of its windows of one size, and in none that
begins behind its end. -/
theorem existsUnique_window {rows : List α} (hnodup : rows.Nodup) {size : Nat} (hsize : 0 < size)
    {a : α} (ha : a ∈ rows) :
    ∃! n, n * size < rows.length ∧ a ∈ (rows.drop (n * size)).take size := by
  obtain ⟨i, hi⟩ := List.mem_iff_getElem?.1 ha
  have hlength : i < rows.length := (List.getElem?_eq_some_iff.1 hi).1
  have hdiv : i / size * size ≤ i ∧ i < i / size * size + size := by
    have hmod := Nat.div_add_mod i size
    have hlt := Nat.mod_lt i hsize
    rw [Nat.mul_comm] at hmod
    omega
  refine ⟨i / size, ⟨by omega, mem_window_iff.2 ⟨i, hdiv.1, hdiv.2, hi⟩⟩, ?_⟩
  rintro n ⟨-, hmem⟩
  obtain ⟨j, hle, hlt, hj⟩ := mem_window_iff.1 hmem
  -- the row stands at one position only
  obtain rfl : j = i :=
    (List.getElem?_inj (List.getElem?_eq_some_iff.1 hj).1 hnodup).1 (hj.trans hi.symm)
  exact (Nat.div_eq_of_lt_le hle (by rw [Nat.succ_mul]; exact hlt)).symm

end Windows

end Microblog
