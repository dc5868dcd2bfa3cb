import Mathlib.Data.String.Basic
import Mathlib.Tactic.Ring
import Microblog.Calendar

/-!
# The order of times as text

Times are compared as text.  From the year 0 to the year 9999 the order of the texts is that of the
times: `Timestamp.text_lt_text_iff`.

* All numbers in a text have leading zeros, as many as it takes, so that smaller numbers have
  smaller texts (`padded_lt_padded`) and the first part that differs decides
  (`append_lt_append`).
* Dates are reached day by day.  The day after has the next number (`Date.number_next`), where the
  number of a date is counted by years and months (`Date.number`); so the date of a day has the
  number of the day, but for where the count begins (`Date.number_ofDays`).
* Of two dates the one with the smaller number is before the other one, by year, month and day
  (`Date.before_of_number_lt`).
-/

set_option autoImplicit false

namespace Microblog

/-! ## Texts of one length -/

/-- The first part of two texts decides how they compare, if it is of one length and differs. -/
theorem append_lt_append {xs ys as bs : List Char} (hlength : xs.length = ys.length)
    (h : xs < ys ∨ xs = ys ∧ as < bs) : xs ++ as < ys ++ bs := by
  induction xs generalizing ys with
  | nil =>
    obtain rfl : ys = [] := List.eq_nil_of_length_eq_zero hlength.symm
    rcases h with h | ⟨-, h⟩
    · exact absurd h (List.not_lt_nil [])
    · exact h
  | cons x xs ih =>
    obtain ⟨y, ys, rfl⟩ := List.exists_cons_of_length_eq_add_one hlength.symm
    rw [List.cons_append, List.cons_append, List.cons_lt_cons_iff]
    rw [List.cons_lt_cons_iff, List.cons.injEq] at h
    rcases h with (h | ⟨rfl, h⟩) | ⟨⟨rfl, hrest⟩, h⟩
    · exact .inl h
    · exact .inr ⟨rfl, ih (Nat.succ.inj hlength) (.inl h)⟩
    · exact .inr ⟨rfl, ih (Nat.succ.inj hlength) (.inr ⟨hrest, h⟩)⟩

theorem digitChar_lt_digitChar {m n : Nat} (h : m < n) (hn : n < 10) :
    m.digitChar < n.digitChar := by
  rw [Char.lt_def, UInt32.lt_iff_toNat_lt]
  show m.digitChar.toNat < n.digitChar.toNat
  rw [Nat.toNat_digitChar_of_lt_ten (Nat.lt_trans h hn), Nat.toNat_digitChar_of_lt_ten hn]
  omega

/-- The last digit of a number comes after all the others. -/
theorem padded_succ {width : Nat} (hwidth : 1 ≤ width) (n : Nat) :
    padded (width + 1) n = padded width (n / 10) ++ [(n % 10).digitChar] := by
  rw [padded, padded, Nat.toDigits_eq_if (by decide)]
  by_cases hn : n < 10
  · have hzeros : List.replicate width '0' = List.replicate (width - 1) '0' ++ ['0'] := by
      rw [← List.replicate_succ', Nat.sub_add_cancel hwidth]
    rw [if_pos hn, Nat.div_eq_of_lt hn, Nat.mod_eq_of_lt hn, List.length_singleton,
      Nat.add_sub_cancel, hzeros]
    rfl
  · rw [if_neg hn, List.length_append, List.length_singleton, Nat.add_sub_add_right,
      List.append_assoc]

theorem padded_one {n : Nat} (hn : n < 10) : padded 1 n = [n.digitChar] := by
  rw [padded, Nat.toDigits_of_lt_base hn]
  rfl

theorem length_padded {width n : Nat} (hn : n < 10 ^ (width + 1)) :
    (padded (width + 1) n).length = width + 1 := by
  induction width generalizing n with
  | zero => rw [padded_one hn, List.length_singleton]
  | succ width ih =>
    rw [padded_succ (Nat.succ_pos width), List.length_append, List.length_singleton,
      ih (Nat.div_lt_of_lt_mul (by rwa [Nat.pow_succ, Nat.mul_comm] at hn))]

/-- The smaller of two numbers with as many digits has the smaller text. -/
theorem padded_lt_padded {width m n : Nat} (h : m < n) (hn : n < 10 ^ (width + 1)) :
    padded (width + 1) m < padded (width + 1) n := by
  induction width generalizing m n with
  | zero =>
    rw [padded_one (Nat.lt_trans h hn), padded_one hn, List.cons_lt_cons_iff]
    exact .inl (digitChar_lt_digitChar h hn)
  | succ width ih =>
    have hn' : n / 10 < 10 ^ (width + 1) :=
      Nat.div_lt_of_lt_mul (by rwa [Nat.pow_succ, Nat.mul_comm] at hn)
    have hm' : m / 10 < 10 ^ (width + 1) := by omega
    rw [padded_succ (Nat.succ_pos width), padded_succ (Nat.succ_pos width)]
    refine append_lt_append (by rw [length_padded hm', length_padded hn']) ?_
    rcases Nat.lt_or_ge (m / 10) (n / 10) with hlt | hge
    · exact .inl (ih hlt hn')
    · have htens : m / 10 = n / 10 := by omega
      refine .inr ⟨by rw [htens], List.cons_lt_cons_iff.2 (.inl ?_)⟩
      exact digitChar_lt_digitChar (by omega) (by omega)

/-- Texts that begin with numbers of as many digits compare by the numbers, and by what follows
where these are equal. -/
theorem padded_append_lt {width m n : Nat} {as bs : List Char} (hm : m < 10 ^ (width + 1))
    (hn : n < 10 ^ (width + 1)) (h : m < n ∨ m = n ∧ as < bs) :
    padded (width + 1) m ++ as < padded (width + 1) n ++ bs := by
  refine append_lt_append (by rw [length_padded hm, length_padded hn]) ?_
  exact h.imp (fun hlt ↦ padded_lt_padded hlt hn) (And.imp_left (congrArg (padded (width + 1))))

namespace Date

/-! ## Counting days -/

/-- A date that there is. -/
structure Valid (d : Date) : Prop where
  month_pos : 1 ≤ d.month
  month_le : d.month ≤ 12
  day_pos : 1 ≤ d.day
  day_le : d.day ≤ monthLength d.year d.month

/-- The number of days from the first January to the beginning of a month. -/
def monthStart (year : Int) : Nat → Nat
  | 0 | 1 => 0
  | month + 2 => monthStart year (month + 1) + monthLength year (month + 1)

/-- The number of days from the beginning of the year 1 to that of a year; every fourth year is
leap, but not every hundredth, but every four hundredth. -/
def yearStart (year : Int) : Int :=
  365 * (year - 1) + (year - 1) / 4 - (year - 1) / 100 + (year - 1) / 400

/-- The number of a date. -/
def number (d : Date) : Int := yearStart d.year + monthStart d.year d.month + d.day

/-- One is before the other, by year, month and day. -/
def Before (d e : Date) : Prop :=
  d.year < e.year ∨ d.year = e.year ∧ (d.month < e.month ∨ d.month = e.month ∧ d.day < e.day)

theorem monthStart_succ (year : Int) {month : Nat} (hmonth : 1 ≤ month) :
    monthStart year (month + 1) = monthStart year month + monthLength year month := by
  obtain ⟨month, rfl⟩ := Nat.exists_eq_add_of_le' hmonth
  rfl

theorem monthStart_mono (year : Int) {m n : Nat} (hm : 1 ≤ m) (h : m ≤ n) :
    monthStart year m ≤ monthStart year n := by
  induction n, h using Nat.le_induction with
  | base => exact Nat.le_refl _
  | succ n hmn ih =>
    rw [monthStart_succ year (Nat.le_trans hm hmn)]
    exact Nat.le_trans ih (Nat.le_add_right _ _)

/-- A year ends with its last month. -/
theorem yearStart_succ (year : Int) :
    yearStart (year + 1) = yearStart year + monthStart year 13 := by
  have hlength : monthStart year 13 = if isLeap year then 366 else 365 := by
    cases hleap : isLeap year <;> simp [monthStart, monthLength, hleap]
  have hleap : isLeap year = true ↔ year % 4 = 0 ∧ (year % 100 ≠ 0 ∨ year % 400 = 0) := by
    simp [isLeap]
  rw [hlength, yearStart, yearStart]
  by_cases h : isLeap year = true
  · rw [if_pos h]
    have := hleap.1 h
    omega
  · rw [if_neg h]
    have := mt hleap.2 h
    omega

theorem yearStart_mono {y z : Int} (h : y ≤ z) : yearStart y ≤ yearStart z := by
  rw [yearStart, yearStart]
  omega

theorem monthLength_pos (year : Int) (month : Nat) : 0 < monthLength year month := by
  rw [monthLength]
  split <;> split <;> decide

variable {d e : Date}

theorem Valid.next (h : d.Valid) : d.next.Valid := by
  have := h.month_pos
  rw [Date.next]
  split
  · exact ⟨h.month_pos, h.month_le, Nat.le_add_left _ _, by assumption⟩
  · split
    · exact ⟨Nat.le_add_left _ _, by assumption, Nat.le_refl _, monthLength_pos _ _⟩
    · exact ⟨Nat.le_refl _, Nat.le_add_left _ _, Nat.le_refl _, monthLength_pos _ _⟩

theorem Valid.previous (h : d.Valid) : d.previous.Valid := by
  have := h.month_le
  have := h.day_le
  rw [Date.previous]
  split
  · exact ⟨h.month_pos, h.month_le, by dsimp only; omega, by dsimp only; omega⟩
  · split
    · exact ⟨by dsimp only; omega, by dsimp only; omega, monthLength_pos _ _, Nat.le_refl _⟩
    · exact ⟨Nat.le_add_left _ _, Nat.le_refl _, Nat.le_add_left _ _, Nat.le_refl _⟩

/-- **The day after has the next number.** -/
theorem number_next (h : d.Valid) : d.next.number = d.number + 1 := by
  have hday := h.day_le
  have hmonth := monthStart_succ d.year h.month_pos
  rw [Date.next, number]
  split
  · dsimp only [number]
    omega
  · split
    · dsimp only [number]
      omega
    · have hlast : d.month = 12 := by have := h.month_le; omega
      have hend : monthStart d.year 13 = monthStart d.year (d.month + 1) := by rw [hlast]
      dsimp only [number]
      rw [yearStart_succ, hend, hmonth, monthStart]
      omega

/-- The day before has the number before. -/
theorem number_previous (h : d.Valid) : d.previous.number = d.number - 1 := by
  have hday := h.day_pos
  have hmonth := h.month_pos
  rw [Date.previous, number]
  split
  · dsimp only [number]
    omega
  · split
    · have hbefore : 1 ≤ d.month - 1 := by omega
      have hstart := monthStart_succ d.year hbefore
      rw [Nat.sub_add_cancel hmonth] at hstart
      dsimp only [number]
      omega
    · have hfirst : d.month = 1 := by omega
      have hyear := yearStart_succ (d.year - 1)
      rw [Int.sub_add_cancel, monthStart_succ _ (by decide)] at hyear
      have hlength : monthLength (d.year - 1) 12 = 31 := rfl
      dsimp only [number]
      rw [hyear, hfirst, monthStart]
      omega

theorem walk_valid {f : Date → Date} (hf : ∀ d : Date, d.Valid → (f d).Valid) {n : Nat}
    (h : d.Valid) : (walk f n d).Valid := by
  induction n generalizing d with
  | zero => exact h
  | succ n ih => exact ih (hf d h)

theorem number_walk {f : Date → Date} {step : Int} (hf : ∀ d : Date, d.Valid → (f d).Valid)
    (hstep : ∀ d : Date, d.Valid → (f d).number = d.number + step) {n : Nat} (h : d.Valid) :
    (walk f n d).number = d.number + n * step := by
  induction n generalizing d with
  | zero => rw [walk, Nat.cast_zero, Int.zero_mul, Int.add_zero]
  | succ n ih =>
    rw [walk, ih (hf d h), hstep d h, Nat.cast_succ]
    ring

theorem valid_epoch : epoch.Valid := ⟨by decide, by decide, by decide, by decide⟩

theorem valid_ofDays (days : Int) : (ofDays days).Valid := by
  cases days with
  | ofNat n => exact walk_valid (fun _ ↦ Valid.next) valid_epoch
  | negSucc n => exact walk_valid (fun _ ↦ Valid.previous) valid_epoch

/-- The number of the first day of the count. -/
theorem number_epoch : epoch.number = 738886 := by decide

/-- **The date of a day has the number of the day**, but for where the count begins. -/
theorem number_ofDays (days : Int) : (ofDays days).number = epoch.number + days := by
  cases days with
  | ofNat n =>
    have hnumber := number_walk (n := n) (fun _ ↦ Valid.next) (fun _ ↦ number_next) valid_epoch
    rw [Int.mul_one] at hnumber
    exact hnumber
  | negSucc n =>
    have hback : ∀ d : Date, d.Valid → d.previous.number = d.number + -1 :=
      fun _ ↦ number_previous
    have hnumber := number_walk (n := n + 1) (fun _ ↦ Valid.previous) hback valid_epoch
    rw [ofDays, hnumber]
    omega

/-! ## The order of dates -/

theorem Valid.number_pos (h : d.Valid) : yearStart d.year < d.number := by
  have := h.day_pos
  rw [number]
  omega

theorem Valid.number_le_month (h : d.Valid) :
    d.number ≤ yearStart d.year + monthStart d.year (d.month + 1) := by
  have := h.day_le
  rw [number, monthStart_succ _ h.month_pos]
  omega

theorem Valid.number_le (h : d.Valid) : d.number ≤ yearStart (d.year + 1) := by
  have := h.number_le_month
  have hmonths : monthStart d.year (d.month + 1) ≤ monthStart d.year 13 :=
    monthStart_mono d.year (Nat.le_add_left 1 d.month) (Nat.succ_le_succ h.month_le)
  rw [yearStart_succ]
  omega

/-- **Of two dates the one with the smaller number is before the other.** -/
theorem before_of_number_lt (hd : d.Valid) (he : e.Valid) (h : d.number < e.number) :
    d.Before e := by
  rcases Int.lt_trichotomy d.year e.year with hyear | hyear | hyear
  · exact .inl hyear
  · refine .inr ⟨hyear, ?_⟩
    rcases Nat.lt_trichotomy d.month e.month with hmonth | hmonth | hmonth
    · exact .inl hmonth
    · rw [number, number, hyear, hmonth] at h
      exact .inr ⟨hmonth, by omega⟩
    · -- the month of `e` ends before that of `d` begins
      have hend := he.number_le_month
      have hmonths := monthStart_mono e.year (Nat.le_add_left 1 e.month) hmonth
      rw [number, hyear] at h
      omega
  · -- the year of `e` ends before that of `d` begins
    have hend := he.number_le
    have hyears := yearStart_mono (Int.add_one_le_of_lt hyear)
    have hstart := hd.number_pos
    omega

/-- The years from 0 to 9999 are those of the dates between their ends. -/
theorem Valid.year_bounds (h : d.Valid) (hfirst : yearStart 0 < d.number)
    (hlast : d.number ≤ yearStart 10000) : 0 ≤ d.year ∧ d.year ≤ 9999 := by
  have hend := h.number_le
  have hstart := h.number_pos
  constructor
  · by_contra hyear
    have := yearStart_mono (y := d.year + 1) (z := 0) (by omega)
    omega
  · by_contra hyear
    have := yearStart_mono (y := 10000) (z := d.year) (by omega)
    omega

/-! ## The order of texts -/

/-- A date with a year of four digits. -/
structure Short (d : Date) : Prop where
  valid : d.Valid
  year_nonneg : 0 ≤ d.year
  year_le : d.year ≤ 9999

namespace Short

theorem year_lt (h : d.Short) : d.year.natAbs < 10 ^ 4 := by
  have := h.year_nonneg
  have := h.year_le
  omega

theorem month_lt (h : d.Short) : d.month < 10 ^ 2 := Nat.lt_of_le_of_lt h.valid.month_le (by decide)

theorem day_lt (h : d.Short) : d.day < 10 ^ 2 := by
  have hlength : monthLength d.year d.month ≤ 31 := by
    rw [monthLength]
    split <;> split <;> decide
  exact Nat.lt_of_le_of_lt (Nat.le_trans h.valid.day_le hlength) (by decide)

theorem text_eq (h : d.Short) : d.text =
    padded 4 d.year.natAbs ++ '-' :: (padded 2 d.month ++ '-' :: padded 2 d.day) := by
  rw [text, if_neg (Int.not_lt.2 h.year_nonneg), List.nil_append, List.append_assoc,
    List.cons_append]

theorem length_text (h : d.Short) : d.text.length = 10 := by
  rw [h.text_eq, List.length_append, List.length_cons, List.length_append, List.length_cons,
    length_padded h.year_lt, length_padded h.month_lt, length_padded h.day_lt]

/-- The date that is before the other has the smaller text. -/
theorem text_lt_text (hd : d.Short) (he : e.Short) (h : d.Before e) : d.text < e.text := by
  rw [hd.text_eq, he.text_eq]
  refine padded_append_lt hd.year_lt he.year_lt ?_
  rcases h with hyear | ⟨hyear, h⟩
  · have := hd.year_nonneg
    exact .inl (by omega)
  refine .inr ⟨congrArg Int.natAbs hyear, List.cons_lt_cons_iff.2 (.inr ⟨rfl, ?_⟩)⟩
  refine padded_append_lt hd.month_lt he.month_lt ?_
  rcases h with hmonth | ⟨hmonth, hday⟩
  · exact .inl hmonth
  · exact .inr ⟨hmonth, List.cons_lt_cons_iff.2 (.inr ⟨rfl, padded_lt_padded hday he.day_lt⟩)⟩

end Short

end Date

namespace Timestamp

open Date

/-- The first second of the year 0. -/
def yearZero : Int := -63871286400

theorem short_ofDays {seconds : Int} (hfirst : yearZero ≤ seconds) (hlast : seconds ≤ last) :
    (ofDays (seconds / 86400)).Short := by
  have hnumber := number_ofDays (seconds / 86400)
  have hzero : yearStart 0 = -366 := by decide
  have hend : yearStart 10000 = 3652059 := by decide
  rw [number_epoch] at hnumber
  rw [yearZero] at hfirst
  rw [last] at hlast
  obtain ⟨hnonneg, hle⟩ :=
    (valid_ofDays (seconds / 86400)).year_bounds (by omega) (by omega)
  exact ⟨valid_ofDays _, hnonneg, hle⟩

/-- The earlier of two times of day has the smaller text. -/
theorem clockText_lt {m n : Nat} (h : m < n) (hn : n < 86400) : clockText m < clockText n := by
  rw [clockText, clockText, List.append_assoc, List.append_assoc, List.cons_append,
    List.cons_append]
  refine padded_append_lt (by omega) (by omega) ?_
  rcases Nat.lt_or_ge (m / 3600) (n / 3600) with hhour | hhour
  · exact .inl hhour
  refine .inr ⟨by omega, List.cons_lt_cons_iff.2 (.inr ⟨rfl, ?_⟩)⟩
  refine padded_append_lt (by omega) (by omega) ?_
  rcases Nat.lt_or_ge (m / 60 % 60) (n / 60 % 60) with hminute | hminute
  · exact .inl hminute
  refine .inr ⟨by omega, List.cons_lt_cons_iff.2 (.inr ⟨rfl, padded_lt_padded ?_ (by omega)⟩)⟩
  omega

/-- The earlier of two times has the smaller text. -/
theorem text_lt_text {a b : Int} (ha : yearZero ≤ a) (hab : a < b) (hb : b ≤ last) :
    text a < text b := by
  have hdate := short_ofDays ha (Int.le_trans (Int.le_of_lt hab) hb)
  have hdate' := short_ofDays (Int.le_trans ha (Int.le_of_lt hab)) hb
  rw [String.lt_iff_toList_lt, text, text, String.toList_ofList, String.toList_ofList]
  refine append_lt_append (hdate.length_text.trans hdate'.length_text.symm) ?_
  rcases Int.lt_or_le (a / 86400) (b / 86400) with hday | hday
  · refine .inl (hdate.text_lt_text hdate' (before_of_number_lt hdate.valid hdate'.valid ?_))
    rw [number_ofDays, number_ofDays]
    exact Int.add_lt_add_left hday _
  · have hsame : a / 86400 = b / 86400 := by omega
    refine .inr ⟨by rw [hsame], List.cons_lt_cons_iff.2 (.inr ⟨rfl, ?_⟩)⟩
    exact clockText_lt (by omega) (by omega)

/-- **From the year 0 to the year 9999 times compare as their texts do.** -/
theorem text_lt_text_iff {a b : Int} (ha : yearZero ≤ a) (ha' : a ≤ last) (hb : yearZero ≤ b)
    (hb' : b ≤ last) : text a < text b ↔ a < b := by
  refine ⟨fun htext ↦ ?_, fun hab ↦ text_lt_text ha hab hb'⟩
  rcases Int.lt_trichotomy a b with hab | rfl | hba
  · exact hab
  · exact absurd htext (String.lt_irrefl _)
  · exact absurd htext (String.lt_asymm (text_lt_text hb hba ha'))

/-- No two of these times have one text. -/
theorem text_injective {a b : Int} (ha : yearZero ≤ a) (ha' : a ≤ last) (hb : yearZero ≤ b)
    (hb' : b ≤ last) (h : text a = text b) : a = b := by
  have hab := text_lt_text_iff ha ha' hb hb'
  have hba := text_lt_text_iff hb hb' ha ha'
  rw [h] at hab hba
  have hirrefl := String.lt_irrefl (text b)
  exact Int.le_antisymm (Int.not_lt.1 (mt hba.2 hirrefl)) (Int.not_lt.1 (mt hab.2 hirrefl))

theorem text?_eq_some_iff {seconds : Int} (hfirst : yearZero ≤ seconds) {t : String} :
    text? seconds = some t ↔ seconds ≤ last ∧ text seconds = t := by
  have hcalendar : first ≤ seconds := Int.le_trans (by decide) hfirst
  rw [text?]
  split
  · rename_i hbounds
    rw [Option.some.injEq, and_iff_right hbounds.2]
  · rename_i hbounds
    exact iff_of_false nofun fun h ↦ hbounds ⟨hcalendar, h.1⟩

theorem yearZero_le (n : Nat) : yearZero ≤ n := Int.le_trans (by decide) (Int.natCast_nonneg n)

/-- No two times have one text. -/
theorem text?_injective {m n : Nat} {t : String} (hm : text? m = some t) (hn : text? n = some t) :
    m = n := by
  obtain ⟨hm, hmtext⟩ := (text?_eq_some_iff (yearZero_le m)).1 hm
  obtain ⟨hn, hntext⟩ := (text?_eq_some_iff (yearZero_le n)).1 hn
  exact Int.ofNat.inj (text_injective (yearZero_le m) hm (yearZero_le n) hn
    (hmtext.trans hntext.symm))

end Timestamp

end Microblog
