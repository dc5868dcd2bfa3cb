import Mathlib.Data.Nat.Init
import Microblog.Text.Decimal

/-!
# Integers and their digits

What `Decimal.renderChars` writes: some digits, of which the first is a zero only if it is the only
one, and a sign before them if the integer is negative.  So no two integers are written in the same
way (`Decimal.renderChars_injective`).

What `Decimal.parseChars` reads is less strict: an integer may have zeros before its digits and a
plus sign before them (`Decimal.Spells`).  Where negative integers are allowed, the texts that are
read are just those that spell an integer between the bounds (`Decimal.parseChars_eq_ok_iff`).
-/

set_option autoImplicit false

namespace Microblog.Text.Decimal

theorem digits_ne_nil (n : Nat) : digits n ≠ [] := Nat.toDigits_ne_nil

theorem isDigit_of_mem_digits {n : Nat} {c : Char} (hc : c ∈ digits n) : c.isDigit = true :=
  Nat.isDigit_of_mem_toDigits (by decide) (by decide) hc

theorem ofDigitChars_digits (n : Nat) : Nat.ofDigitChars 10 (digits n) 0 = n :=
  Nat.ofDigitChars_ten_toDigits

theorem digits_injective {m n : Nat} (h : digits m = digits n) : m = n := by
  rw [← ofDigitChars_digits m, h, ofDigitChars_digits]

/-- The digits of a number above zero do not start with a zero. -/
theorem head?_digits {n : Nat} (hn : 0 < n) : (digits n).head? ≠ some '0' := by
  induction n using Nat.strong_induction_on with
  | _ n ih =>
    rw [digits, Nat.toDigits_eq_if (by decide)]
    split
    · rename_i hlt
      intro hzero
      have hdigit : Nat.digitChar n = '0' := by simpa using hzero
      have hother : ∀ d < 10, 0 < d → Nat.digitChar d ≠ '0' := by decide
      exact hother n hlt hn hdigit
    · rename_i hge
      have htens : 0 < n / 10 := Nat.div_pos (Nat.le_of_not_lt hge) (by decide)
      have hfewer := ih (n / 10) (Nat.div_lt_self hn (by decide)) htens
      obtain ⟨c, cs, hdigits⟩ := List.exists_cons_of_ne_nil (digits_ne_nil (n / 10))
      rw [hdigits] at hfewer
      rw [← digits, hdigits]
      exact hfewer

/-- A zero stands before other digits in no number. -/
theorem eq_nil_of_digits_eq {n : Nat} {cs : List Char} (h : digits n = '0' :: cs) : cs = [] := by
  rcases Nat.eq_zero_or_pos n with rfl | hn
  · exact (List.cons.inj (show ['0'] = '0' :: cs from h)).2.symm
  · exact absurd (by rw [h]; rfl) (head?_digits hn)

theorem not_mem_digits {n : Nat} {c : Char} (hc : c.isDigit = false) : c ∉ digits n := by
  intro hmem
  rw [isDigit_of_mem_digits hmem] at hc
  cases hc

theorem renderChars_injective {m n : Int} (h : renderChars m = renderChars n) : m = n := by
  cases m with
  | ofNat m =>
    cases n with
    | ofNat n => exact congrArg Int.ofNat (digits_injective h)
    | negSucc n =>
      have hminus : '-' ∈ digits m := by
        rw [show digits m = '-' :: digits (n + 1) from h]
        exact List.mem_cons_self
      exact absurd hminus (not_mem_digits rfl)
  | negSucc m =>
    cases n with
    | ofNat n =>
      have hminus : '-' ∈ digits n := by
        rw [show digits n = '-' :: digits (m + 1) from h.symm]
        exact List.mem_cons_self
      exact absurd hminus (not_mem_digits rfl)
    | negSucc n =>
      have hsucc : m + 1 = n + 1 := digits_injective (List.cons.inj h).2
      rw [Nat.succ.inj hsucc]

/-- An integer is written with digits and a minus sign only. -/
theorem not_mem_renderChars {n : Int} {c : Char} (hc : c.isDigit = false) (hminus : c ≠ '-') :
    c ∉ renderChars n := by
  cases n with
  | ofNat n => exact not_mem_digits hc
  | negSucc n =>
    intro hmem
    rcases List.mem_cons.1 hmem with hhead | hmem
    · exact hminus hhead
    · exact not_mem_digits hc hmem

/-! ## Reading -/

theorem ofDigitChars_le {ds : List Char} {m n : Nat} (h : m ≤ n) :
    m ≤ Nat.ofDigitChars 10 ds n := by
  rw [Nat.ofDigitChars_eq_ofDigitChars_zero]
  have hpow : 1 ≤ 10 ^ ds.length := Nat.one_le_pow _ _ (by decide)
  have hmul : 1 * n ≤ 10 ^ ds.length * n := Nat.mul_le_mul_right n hpow
  omega

/-- `ds` are digits of `n`, of which the first may be zeros. -/
structure Unsigned (ds : List Char) (n : Nat) : Prop where
  ne_nil : ds ≠ []
  isDigit : ∀ c ∈ ds, c.isDigit = true
  value : Nat.ofDigitChars 10 ds 0 = n

/-- `cs` spells `n`: digits, with a sign before them or without one. -/
inductive Spells : List Char → Int → Prop
  | plain {ds : List Char} {n : Nat} (h : Unsigned ds n) : Spells ds n
  | plus {ds : List Char} {n : Nat} (h : Unsigned ds n) : Spells ('+' :: ds) n
  | minus {ds : List Char} {n : Nat} (h : Unsigned ds n) : Spells ('-' :: ds) (-n)

theorem unsigned_digits (n : Nat) : Unsigned (digits n) n :=
  ⟨digits_ne_nil n, fun _ ↦ isDigit_of_mem_digits, ofDigitChars_digits n⟩

/-- Digits do not start with a sign. -/
theorem not_unsigned_cons {c : Char} {ds : List Char} {n : Nat} (hc : c.isDigit = false) :
    ¬Unsigned (c :: ds) n := fun h ↦ by
  simpa [hc] using h.isDigit c List.mem_cons_self

/-- Digits, with a plus sign before them or without one, are those of one number. -/
theorem Unsigned.eq {cs ds es : List Char} {m n : Nat} (hds : Unsigned ds m) (hes : Unsigned es n)
    (hsign : cs = ds ∨ cs = '+' :: ds) (hsign' : cs = es ∨ cs = '+' :: es) : m = n := by
  have hsame : ds = es := by
    rcases hsign with rfl | rfl <;> rcases hsign' with hes' | hes'
    · exact hes'
    · exact absurd (hes' ▸ hds) (not_unsigned_cons rfl)
    · exact absurd (hes' ▸ hes) (not_unsigned_cons rfl)
    · exact List.cons_inj_right '+' |>.1 hes'
  rw [← hds.value, hsame, hes.value]

theorem magnitude_eq_ok_iff {bound acc n : Nat} {tooFar : Fault} {cs : List Char}
    (hacc : acc ≤ bound) : magnitude bound tooFar acc cs = .ok n ↔
      (∀ c ∈ cs, c.isDigit = true) ∧ Nat.ofDigitChars 10 cs acc = n ∧ n ≤ bound := by
  induction cs generalizing acc with
  | nil =>
    simp only [magnitude, Nat.ofDigitChars_nil, List.not_mem_nil, false_implies, implies_true,
      true_and, Except.ok.injEq]
    exact ⟨fun h ↦ ⟨h, h ▸ hacc⟩, And.left⟩
  | cons c cs ih =>
    cases hc : c.isDigit with
    | false => simp [magnitude, digit?, hc]
    | true =>
      rw [Nat.ofDigitChars_cons, Nat.mul_comm 10 acc]
      simp only [magnitude, digit?, hc, if_true, List.forall_mem_cons, true_and]
      split
      · exact ih ‹_›
      · -- the digits that follow make the number no smaller
        have hle : acc * 10 + (c.toNat - '0'.toNat) ≤
            Nat.ofDigitChars 10 cs (acc * 10 + (c.toNat - '0'.toNat)) :=
          ofDigitChars_le (Nat.le_refl _)
        simp only [reduceCtorEq, false_iff]
        omega

theorem unsigned_eq_ok_iff {bound n : Nat} {tooFar : Fault} {cs : List Char} :
    unsigned bound tooFar cs = .ok n ↔ Unsigned cs n ∧ n ≤ bound := by
  cases cs with
  | nil => exact ⟨nofun, fun h ↦ absurd rfl h.1.ne_nil⟩
  | cons c cs =>
    rw [unsigned, magnitude_eq_ok_iff (Nat.zero_le bound)]
    exact ⟨fun ⟨hdigits, hvalue, hle⟩ ↦ ⟨⟨List.cons_ne_nil c cs, hdigits, hvalue⟩, hle⟩,
      fun ⟨h, hle⟩ ↦ ⟨h.isDigit, h.value, hle⟩⟩

section Spells

variable {cs ds : List Char} {n : Int}

theorem spells_plus_iff : Spells ('+' :: ds) n ↔ ∃ m : Nat, Unsigned ds m ∧ m = n := by
  refine ⟨fun h ↦ ?_, fun ⟨m, h, hm⟩ ↦ hm ▸ .plus h⟩
  cases h with
  | plain h => exact absurd h (not_unsigned_cons rfl)
  | plus h => exact ⟨_, h, rfl⟩

theorem spells_minus_iff : Spells ('-' :: ds) n ↔ ∃ m : Nat, Unsigned ds m ∧ -m = n := by
  refine ⟨fun h ↦ ?_, fun ⟨m, h, hm⟩ ↦ hm ▸ .minus h⟩
  cases h with
  | plain h => exact absurd h (not_unsigned_cons rfl)
  | minus h => exact ⟨_, h, rfl⟩

theorem spells_plain_iff (hplus : ∀ ds, cs ≠ '+' :: ds) (hminus : ∀ ds, cs ≠ '-' :: ds) :
    Spells cs n ↔ ∃ m : Nat, Unsigned cs m ∧ m = n := by
  refine ⟨fun h ↦ ?_, fun ⟨m, h, hm⟩ ↦ hm ▸ .plain h⟩
  cases h with
  | plain h => exact ⟨_, h, rfl⟩
  | plus => exact absurd rfl (hplus _)
  | minus => exact absurd rfl (hminus _)

/-- Whatever spells a number above zero has no minus sign. -/
theorem spells_iff_of_pos (hn : 0 < n) :
    Spells cs n ↔ ∃ ds, (cs = ds ∨ cs = '+' :: ds) ∧ Unsigned ds n.toNat := by
  constructor
  · intro h
    cases h with
    | plain h => exact ⟨_, .inl rfl, h⟩
    | plus h => exact ⟨_, .inr rfl, h⟩
    | minus h => omega
  · rintro ⟨ds, hsign, h⟩
    obtain ⟨m, rfl⟩ := Int.eq_ofNat_of_zero_le (Int.le_of_lt hn)
    rcases hsign with rfl | rfl
    · exact .plain h
    · exact .plus h

variable {below above : Nat} {tooFar : Fault}

theorem ofNat_unsigned_eq_ok_iff : (unsigned above tooFar ds).map Int.ofNat = .ok n ↔
    (∃ m : Nat, Unsigned ds m ∧ m = n) ∧ -below ≤ n ∧ n ≤ above := by
  have hmap : (unsigned above tooFar ds).map Int.ofNat = .ok n ↔
      ∃ m, unsigned above tooFar ds = .ok m ∧ (m : Int) = n := by
    cases unsigned above tooFar ds <;> simp [Except.map]
  simp only [hmap, unsigned_eq_ok_iff]
  constructor
  · rintro ⟨m, ⟨hm, hle⟩, rfl⟩
    exact ⟨⟨m, hm, rfl⟩, by omega, by omega⟩
  · rintro ⟨⟨m, hm, rfl⟩, -, hle⟩
    exact ⟨m, ⟨hm, by omega⟩, rfl⟩

-- the magnitude becomes an integer before the sign is put to it
theorem neg_unsigned_eq_ok_iff :
    (do return ((← unsigned below tooFar ds : Nat) : Int) : Except Fault Int).map (fun m ↦ -m) =
      .ok n ↔ (∃ m : Nat, Unsigned ds m ∧ -m = n) ∧ -below ≤ n ∧ n ≤ above := by
  have hmap : (do return ((← unsigned below tooFar ds : Nat) : Int) : Except Fault Int).map
      (fun m ↦ -m) = .ok n ↔ ∃ m : Nat, unsigned below tooFar ds = .ok m ∧ -(m : Int) = n := by
    cases unsigned below tooFar ds <;> simp [Except.map, bind, Except.bind, pure, Except.pure]
  simp only [hmap, unsigned_eq_ok_iff]
  constructor
  · rintro ⟨m, ⟨hm, hle⟩, rfl⟩
    exact ⟨⟨m, hm, rfl⟩, by omega, by omega⟩
  · rintro ⟨⟨m, hm, rfl⟩, hle, -⟩
    exact ⟨m, ⟨hm, by omega⟩, rfl⟩

/-- **What is read as an integer**: every text that spells one between the bounds, and no other. -/
theorem parseChars_eq_ok_iff (hbelow : 0 < below) :
    parseChars below above cs = .ok n ↔ Spells cs n ∧ -below ≤ n ∧ n ≤ above := by
  rw [parseChars.eq_def]
  split
  · refine ⟨nofun, fun ⟨h, _⟩ ↦ ?_⟩
    cases h with
    | plain h => exact absurd rfl h.ne_nil
  · rw [spells_plus_iff]
    exact ofNat_unsigned_eq_ok_iff
  · rw [if_neg (Nat.ne_of_gt hbelow), spells_minus_iff]
    exact neg_unsigned_eq_ok_iff
  · rename_i hplus hminus
    rw [spells_plain_iff hplus hminus]
    exact ofNat_unsigned_eq_ok_iff

end Spells

theorem parseId_eq_some_iff {s : String} {n : Int} :
    parseId s = some n ↔ Spells s.toList n ∧ Fits n := by
  have hoption : parseId s = some n ↔
      parseChars 9223372036854775808 9223372036854775807 s.toList = .ok n := by
    rw [parseId, parse]
    cases parseChars 9223372036854775808 9223372036854775807 s.toList <;>
      simp [Except.toOption]
  rw [hoption, parseChars_eq_ok_iff (by decide)]
  rfl

/-! ## Texts that spell no natural number -/

/-- What is wrong with a text that is neither digits nor digits behind a plus sign. -/
inductive Misspelt : List Char → Prop
  | empty : Misspelt []
  /-- The plus sign stands alone. -/
  | signAlone : Misspelt ['+']
  /-- The first character is neither a digit nor a plus sign; it may be a minus sign. -/
  | first {c : Char} {cs : List Char} (hdigit : c.isDigit = false) (hplus : c ≠ '+') :
      Misspelt (c :: cs)
  /-- A later character is no digit. -/
  | later {c d : Char} {cs : List Char} (hd : d ∈ cs) (hdigit : d.isDigit = false) :
      Misspelt (c :: cs)

theorem Misspelt.not_unsigned {cs ds : List Char} {n : Nat} (h : Misspelt cs)
    (hsign : cs = ds ∨ cs = '+' :: ds) : ¬Unsigned ds n := by
  intro hds
  rcases hsign with rfl | rfl
  · cases h with
    | empty => exact hds.ne_nil rfl
    | signAlone => exact not_unsigned_cons rfl hds
    | first hdigit => exact not_unsigned_cons hdigit hds
    | later hd hdigit => simpa [hdigit] using hds.isDigit _ (List.mem_cons_of_mem _ hd)
  · cases h with
    | signAlone => exact hds.ne_nil rfl
    | first _ hplus => exact hplus rfl
    | later hd hdigit => simpa [hdigit] using hds.isDigit _ hd

theorem misspelt_or_unsigned (cs : List Char) :
    Misspelt cs ∨ ∃ ds n, (cs = ds ∨ cs = '+' :: ds) ∧ Unsigned ds n := by
  cases cs with
  | nil => exact .inl .empty
  | cons c cs =>
    by_cases hlater : ∃ d ∈ cs, d.isDigit = false
    · obtain ⟨d, hd, hdigit⟩ := hlater
      exact .inl (.later hd hdigit)
    · have hdigits : ∀ d ∈ cs, d.isDigit = true := by simpa using hlater
      by_cases hplus : c = '+'
      · subst hplus
        by_cases hnil : cs = []
        · exact .inl (hnil ▸ .signAlone)
        · exact .inr ⟨cs, _, .inr rfl, hnil, hdigits, rfl⟩
      · cases hfirst : c.isDigit with
        | false => exact .inl (.first hfirst hplus)
        | true =>
          exact .inr ⟨c :: cs, _, .inl rfl, List.cons_ne_nil c cs,
            List.forall_mem_cons.2 ⟨hfirst, hdigits⟩, rfl⟩

end Microblog.Text.Decimal
