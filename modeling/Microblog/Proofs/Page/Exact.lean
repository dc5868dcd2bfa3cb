import Mathlib.Algebra.Order.Ring.Int
import Mathlib.Data.Set.Defs
import Microblog.Proofs.Page

/-!
# The windows of pages are exact

The offset of a page is a product that is brought into the range of 64 bits.  Where it does not fit,
it is the bound on the side of its sign (`Page.offset_of_not_fits`).

That never happens to a page that a request is given.  `Page.request` multiplies the same numbers
to see whether they may be asked for, so that the offset is their product, and the page has just the
rows that its numbers say (`Page.exact_of_request`).  The windows of two such pages of one size do
not overlap, and that of the next page begins where the window ends (`Page.exactWindows`).
-/

set_option autoImplicit false

namespace Microblog

open Text

/-! ## The range of 64 bits -/

theorem clamp_of_fits {n : Int} (h : Decimal.Fits n) : clamp n = n := by
  rw [clamp, Int.min_eq_left h.2, Int.max_eq_right h.1]

theorem clamp_of_lt {n : Int} (h : Decimal.greatest < n) : clamp n = Decimal.greatest := by
  have hbounds : Decimal.least ≤ Decimal.greatest := by decide
  rw [clamp, Int.min_eq_right h.le, Int.max_eq_right hbounds]

theorem clamp_of_gt {n : Int} (h : n < Decimal.least) : clamp n = Decimal.least :=
  Int.max_eq_left (Int.le_trans (Int.min_le_left _ _) h.le)

namespace Page

/-- An offset that does not fit is the greatest integer of 64 bits if the numbers of the page have
the same sign, and the least one if they have not. -/
theorem offset_of_not_fits {p : Page} (h : ¬Decimal.Fits (p.page * p.size)) :
    p.offset = if p.page < 0 ↔ p.size < 0 then Decimal.greatest else Decimal.least := by
  have hbounds : Decimal.least ≤ 0 ∧ 0 ≤ Decimal.greatest := by decide
  rw [Decimal.Fits] at h
  rw [offset]
  split
  · rename_i hsame
    have hnonneg : 0 ≤ p.page * p.size := by
      rcases Int.lt_or_le p.page 0 with hpage | hpage
      · exact Int.mul_nonneg_of_nonpos_of_nonpos hpage.le (hsame.1 hpage).le
      · exact Int.mul_nonneg hpage (Int.not_lt.1 (mt hsame.2 (Int.not_lt.2 hpage)))
    exact clamp_of_lt (by omega)
  · rename_i hother
    have hnonpos : p.page * p.size ≤ 0 := by
      rcases Int.lt_or_le p.page 0 with hpage | hpage
      · exact mul_nonpos_of_nonpos_of_nonneg hpage.le (by omega)
      · exact mul_nonpos_of_nonneg_of_nonpos hpage (by omega)
    exact clamp_of_gt (by omega)

/-! ## Pages that a request is given -/

/-- The page is exactly what its number and the size that was asked for say. -/
structure Exact (number size : Int) (p : Page) : Prop where
  limit : p.limit = min size maxSize
  limit_pos : 1 ≤ p.limit
  limit_le : p.limit ≤ 50
  offset : p.offset = number * p.limit
  /-- The rows on the page are those that follow the offset, up to the limit. -/
  rows : ∀ {α : Type} (rows : List α) (i : Nat), (p.of rows)[i]? =
    if (i : Int) < p.limit then rows[(number * p.limit).toNat + i]? else none

/-- **A page that a request is given is exact**: nothing had to be brought into range. -/
theorem exact_of_request {page size : Option Int} {p : Page} (h : request page size = .ok p) :
    Exact (page.getD 0) (size.getD defaultSize) p := by
  obtain ⟨hpage, hsize, hfits, rfl⟩ := request_eq_ok_iff.1 h
  have hmax : maxSize = 50 := rfl
  have hoffset : offset ⟨page.getD 0, min (size.getD defaultSize) maxSize⟩ =
    page.getD 0 * min (size.getD defaultSize) maxSize := clamp_of_fits hfits
  have hlimit : 1 ≤ min (size.getD defaultSize) maxSize := by omega
  refine ⟨rfl, hlimit, Int.min_le_right _ _, hoffset, fun rows i ↦ ?_⟩
  rw [Page.of, hoffset, Page.limit, limited, if_neg (Int.not_lt.2 (Int.le_of_lt hlimit)),
    List.getElem?_take, List.getElem?_drop]
  exact if_congr Int.lt_toNat rfl rfl

/-! ## Pages of one size -/

/-- The places in a listing, counted from zero, of the rows that are on a page. -/
def window (p : Page) : Set Nat := {i | p.offset ≤ i ∧ (i : Int) < p.offset + p.limit}

namespace Allowed

variable {p q : Page}

theorem offset_eq (h : p.Allowed) : p.offset = p.page * p.size := by
  obtain ⟨page, size, h⟩ := h
  obtain ⟨-, -, hfits, rfl⟩ := request_eq_ok_iff.1 h
  exact clamp_of_fits hfits

/-- The pages before one that may be asked for may be asked for, too. -/
theorem earlier (h : p.Allowed) {n : Int} (hn : 0 ≤ n) (hle : n ≤ p.page) :
    Allowed ⟨n, p.size⟩ := by
  obtain ⟨m, k, rfl, hk, hmax, hfits⟩ := allowed_iff.1 h
  obtain ⟨n, rfl⟩ := Int.eq_ofNat_of_zero_le hn
  have hproduct : n * k ≤ m * k := Nat.mul_le_mul_right k (Int.ofNat_le.1 hle)
  exact allowed_iff.2 ⟨n, k, rfl, hk, hmax, by omega⟩

/-- The window of the next page begins where the window of a page ends. -/
theorem offset_next (hp : p.Allowed) (hq : q.Allowed) (hsize : p.size = q.size)
    (hnext : q.page = p.page + 1) : q.offset = p.offset + p.limit := by
  rw [hp.offset_eq, hq.offset_eq, hnext, ← hsize, Int.add_mul, Int.one_mul, limit]

/-- The window of a page ends before that of a later one begins. -/
theorem offset_later (hp : p.Allowed) (hq : q.Allowed) (hsize : p.size = q.size)
    (hlt : p.page < q.page) : p.offset + p.limit ≤ q.offset := by
  obtain ⟨_, k, hk, -⟩ := allowed_iff.1 hp
  have hpositive : 0 ≤ p.size := by
    rw [hk]
    exact Int.natCast_nonneg k
  rw [hp.offset_eq, hq.offset_eq, ← hsize, limit]
  calc p.page * p.size + p.size = (p.page + 1) * p.size := by rw [Int.add_mul, Int.one_mul]
    _ ≤ q.page * p.size := Int.mul_le_mul_of_nonneg_right hlt hpositive

theorem disjoint_of_lt (hp : p.Allowed) (hq : q.Allowed) (hsize : p.size = q.size)
    (hlt : p.page < q.page) : ∀ i ∈ p.window, i ∉ q.window := by
  have hend := hp.offset_later hq hsize hlt
  rintro i ⟨-, hbefore⟩ ⟨hafter, -⟩
  omega

/-- No row is on two pages of one size. -/
theorem disjoint (hp : p.Allowed) (hq : q.Allowed) (hsize : p.size = q.size) (hne : p ≠ q) :
    ∀ i ∈ p.window, i ∉ q.window := by
  rcases Int.lt_trichotomy p.page q.page with hlt | heq | hlt
  · exact hp.disjoint_of_lt hq hsize hlt
  · refine absurd ?_ hne
    cases p
    cases q
    exact congrArg₂ Page.mk heq hsize
  · exact fun i hi hi' ↦ hq.disjoint_of_lt hp hsize.symm hlt i hi' hi

end Allowed

/-- How pages divide a listing. -/
structure ExactWindows : Prop where
  /-- A request is given a page just if its number is not negative, its size is positive and the
  offset is an integer of 64 bits. -/
  accepted : ∀ page size : Option Int, (∃ p, request page size = .ok p) ↔
    0 ≤ page.getD 0 ∧ 1 ≤ size.getD 20 ∧ Decimal.Fits (page.getD 0 * min (size.getD 20) 50)
  exact : ∀ {page size : Option Int} {p : Page}, request page size = .ok p →
    Exact (page.getD 0) (size.getD 20) p
  disjoint : ∀ {p q : Page}, p.Allowed → q.Allowed → p.size = q.size → p ≠ q →
    ∀ i ∈ p.window, i ∉ q.window
  /-- The windows of one size follow each other, as far as there are pages. -/
  adjacent : ∀ {p : Page}, p.Allowed → ∀ n : Int, 0 ≤ n → n < p.page →
    Allowed ⟨n, p.size⟩ ∧ Allowed ⟨n + 1, p.size⟩ ∧
      offset ⟨n + 1, p.size⟩ = offset ⟨n, p.size⟩ + limit ⟨n, p.size⟩
  /-- Whatever the numbers of a page are, its offset is their product if that has 64 bits, and else
  the bound that is nearest to it. -/
  saturated : ∀ p : Page, (Decimal.Fits (p.page * p.size) → p.offset = p.page * p.size) ∧
    (Decimal.greatest < p.page * p.size → p.offset = Decimal.greatest) ∧
    (p.page * p.size < Decimal.least → p.offset = Decimal.least)
  /-- It is the bound on the side of the product's sign. -/
  direction : ∀ p : Page, ¬Decimal.Fits (p.page * p.size) →
    p.offset = if p.page < 0 ↔ p.size < 0 then Decimal.greatest else Decimal.least

/-- **Pages that may be asked for have exact windows**, which follow each other without gaps; and
the offset of any page is its product, brought into the range of 64 bits. -/
theorem exactWindows : ExactWindows where
  accepted page size := by
    constructor
    · rintro ⟨p, h⟩
      obtain ⟨hpage, hsize, hfits, -⟩ := request_eq_ok_iff.1 h
      exact ⟨hpage, hsize, hfits⟩
    · rintro ⟨hpage, hsize, hfits⟩
      exact ⟨_, request_eq_ok_iff.2 ⟨hpage, hsize, hfits, rfl⟩⟩
  exact h := exact_of_request h
  disjoint hp hq hsize hne := hp.disjoint hq hsize hne
  adjacent hp n hn hlt := by
    have hthis := hp.earlier hn hlt.le
    have hnext := hp.earlier (n := n + 1) (by omega) hlt
    exact ⟨hthis, hnext, hthis.offset_next hnext rfl rfl⟩
  saturated p := ⟨clamp_of_fits, clamp_of_lt, clamp_of_gt⟩
  direction p h := offset_of_not_fits h

end Page

end Microblog
