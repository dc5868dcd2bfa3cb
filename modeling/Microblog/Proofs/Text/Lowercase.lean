import Mathlib.Data.List.Basic
import Microblog.Text.Lowercase

/-!
# What lowercasing leaves out, and what it leaves alone

Lowercasing a text without NULs gives one without NULs (`nul_not_mem_lowercase`).  The store ends
texts and patterns at a NUL, so this is what a pattern that is made of a lowercased term needs.

A text in lowercase stays as it is when it is lowercased again (`lowercase_lowercase`), and of any
text a character of ASCII that is no capital letter stays (`mem_lowercase`).

All this comes down to facts about the case table, which are checked run by run: none of the runs
leads to NUL or to a number that is no character (`RunLeads`), and what one of them leads to is in
none of them (`not_inRun_of_shift`).
-/

set_option autoImplicit false

namespace Microblog.Text

/-- A run of the case table leads to characters other than NUL. -/
def RunLeads (r : Nat × Nat × Nat × Int) : Prop :=
  1 ≤ r.1 + r.2.2.2 ∧
    (r.2.1 + r.2.2.2 < 0xD800 ∨ 0xE000 ≤ r.1 + r.2.2.2 ∧ r.2.1 + r.2.2.2 < 0x110000)

instance (r : Nat × Nat × Nat × Int) : Decidable (RunLeads r) := inferInstanceAs (Decidable (_ ∧ _))

theorem runLeads_lowercaseRuns : ∀ r ∈ lowercaseRuns, RunLeads r := by decide +kernel

theorem toNat_ofNat {n : Nat} (h : n.isValidChar) : (Char.ofNat n).toNat = n := by
  rw [Char.ofNat, dif_pos h]
  rfl

/-- A run of the case table maps code point `n`. -/
def InRun (n : Nat) (r : Nat × Nat × Nat × Int) : Prop :=
  r.1 ≤ n ∧ n ≤ r.2.1 ∧ (n - r.1) % r.2.2.1 = 0

instance (n : Nat) (r : Nat × Nat × Nat × Int) : Decidable (InRun n r) :=
  inferInstanceAs (Decidable (_ ∧ _))

/-- **A character is shifted by a run that it is in**, or it is in none and stays. -/
theorem lowercaseByRuns_cases {c : Char} {runs : List (Nat × Nat × Nat × Int)}
    (hleads : ∀ r ∈ runs, RunLeads r) :
    (∀ r ∈ runs, ¬InRun c.toNat r) ∧ lowercaseByRuns c.toNat runs = c ∨
      ∃ r ∈ runs, InRun c.toNat r ∧
        ((lowercaseByRuns c.toNat runs).toNat : Int) = c.toNat + r.2.2.2 := by
  induction runs with
  | nil => exact .inl ⟨fun r hr ↦ absurd hr List.not_mem_nil, Char.ofNat_toNat c⟩
  | cons r runs ih =>
    obtain ⟨first, last, step, shift⟩ := r
    rw [lowercaseByRuns]
    split
    · rename_i hrun
      simp only [Bool.and_eq_true, decide_eq_true_eq, beq_iff_eq, and_assoc] at hrun
      have hfirst := hrun.1
      have hlast := hrun.2.1
      obtain ⟨hone, hrange⟩ := hleads _ List.mem_cons_self
      dsimp only at hone hrange
      refine .inr ⟨_, List.mem_cons_self, hrun, ?_⟩
      rw [toNat_ofNat (by rw [Nat.isValidChar]; omega)]
      dsimp only
      omega
    · rename_i hrun
      simp only [Bool.and_eq_true, decide_eq_true_eq, beq_iff_eq, and_assoc] at hrun
      rcases ih fun q hq ↦ hleads q (List.mem_cons_of_mem _ hq) with
        ⟨hnone, hself⟩ | ⟨q, hq, hin, hval⟩
      · exact .inl ⟨List.forall_mem_cons.2 ⟨hrun, hnone⟩, hself⟩
      · exact .inr ⟨q, List.mem_cons_of_mem _ hq, hin, hval⟩

theorem lowercaseByRuns_ne_nul {c : Char} (hc : c ≠ '\x00') :
    lowercaseByRuns c.toNat lowercaseRuns ≠ '\x00' := by
  rcases lowercaseByRuns_cases runLeads_lowercaseRuns with ⟨-, hself⟩ | ⟨r, hr, hin, hval⟩
  · rwa [hself]
  · intro hnul
    have hone := (runLeads_lowercaseRuns r hr).1
    have hfirst := hin.1
    have hzero : ('\x00').toNat = 0 := rfl
    rw [hnul, hzero] at hval
    omega

/-- A letter `A` to `Z` becomes one of `a` to `z`, and all else stays. -/
theorem foldChar_eq_self_or (c : Char) :
    foldChar c = c ∨ 97 ≤ (foldChar c).toNat ∧ (foldChar c).toNat ≤ 122 ∧ c.toNat < 97 := by
  rw [foldChar]
  split
  · rename_i hupper
    have hfirst : 65 ≤ c.toNat := hupper.1
    have hlast : c.toNat ≤ 90 := hupper.2
    rw [toNat_ofNat (by rw [Nat.isValidChar]; omega)]
    omega
  · exact .inl rfl

theorem foldChar_foldChar (c : Char) : foldChar (foldChar c) = foldChar c := by
  rcases foldChar_eq_self_or c with hself | ⟨hfirst, -, -⟩
  · rw [hself, hself]
  · exact (foldChar_eq_self_or (foldChar c)).resolve_right (by omega)

theorem foldChar_ne_nul {c : Char} (hc : c ≠ '\x00') : foldChar c ≠ '\x00' := by
  rcases foldChar_eq_self_or c with hself | ⟨hsmall, -, -⟩
  · rwa [hself]
  · intro hnul
    rw [hnul] at hsmall
    exact absurd hsmall (by decide)

/-- What is there in lowercase comes from one character, or is one of the two small sigmas. -/
theorem of_mem_lowercaseFrom {d : Char} {before cs : List Char} (h : d ∈ lowercaseFrom before cs) :
    (d = Char.ofNat 0x3C2 ∨ d = Char.ofNat 0x3C3) ∨
      ∃ c ∈ cs, c.toNat ≠ 0x3A3 ∧ d ∈ lowercaseChar c := by
  induction cs generalizing before with
  | nil => cases h
  | cons c cs ih =>
    rw [lowercaseFrom, List.mem_append] at h
    rcases h with h | h
    · split at h
      · obtain rfl := List.mem_singleton.1 h
        split
        · exact .inl (.inl rfl)
        · exact .inl (.inr rfl)
      · rename_i hsigma
        rw [beq_iff_eq] at hsigma
        exact .inr ⟨c, List.mem_cons_self, hsigma, h⟩
    · exact (ih h).imp_right fun ⟨c', hc', hchar⟩ ↦ ⟨c', List.mem_cons_of_mem c hc', hchar⟩

theorem nul_not_mem_lowercaseChar {c : Char} (hc : c ≠ '\x00') : '\x00' ∉ lowercaseChar c := by
  rw [lowercaseChar]
  split
  · exact fun h ↦ foldChar_ne_nul hc (List.mem_singleton.1 h).symm
  · split
    · decide
    · exact fun h ↦ lowercaseByRuns_ne_nul hc (List.mem_singleton.1 h).symm

/-- **A text without NULs has none in lowercase.** -/
theorem nul_not_mem_lowercase {s : String} (h : '\x00' ∉ s.toList) :
    '\x00' ∉ (lowercase s).toList := by
  rw [lowercase, String.toList_ofList]
  intro hmem
  rcases of_mem_lowercaseFrom hmem with (hsigma | hsigma) | ⟨c, hc, -, hchar⟩
  · exact absurd hsigma (by decide)
  · exact absurd hsigma (by decide)
  · exact nul_not_mem_lowercaseChar (ne_of_mem_of_not_mem hc h) hchar

/-! ## Text in lowercase -/

/-- What run `r` leads to is not in run `q`: the code points lie apart, or take turns. -/
def runsApart (r q : Nat × Nat × Nat × Int) : Bool :=
  Nat.blt (r.2.1 + r.2.2.2).toNat q.1 || Nat.blt q.2.1 (r.1 + r.2.2.2).toNat ||
    (Nat.beq r.1 r.2.1 || Nat.beq r.2.2.1 2) && Nat.beq q.2.2.1 2 &&
      Nat.beq (((r.1 + r.2.2.2).toNat + q.1) % 2) 1

/-- The code points that do not stay: those in the runs of the case table, and the capital `İ`. -/
def restlessRuns : List (Nat × Nat × Nat × Int) := (0x130, 0x130, 1, 0) :: lowercaseRuns

theorem runsApart_lowercaseRuns :
    (lowercaseRuns.all fun r ↦ restlessRuns.all (runsApart r)) = true := by decide +kernel

/-- **What a run of the case table leads to stays.** -/
theorem not_inRun_of_shift {n m : Nat} {r q : Nat × Nat × Nat × Int} (hr : r ∈ lowercaseRuns)
    (hn : InRun n r) (hm : (m : Int) = n + r.2.2.2) (hq : q ∈ restlessRuns) : ¬InRun m q := by
  have hapart := List.all_eq_true.1 (List.all_eq_true.1 runsApart_lowercaseRuns r hr) q hq
  simp only [runsApart, Bool.or_eq_true, Bool.and_eq_true, Nat.blt_eq, Nat.beq_eq] at hapart
  have hleads := (runLeads_lowercaseRuns r hr).1
  obtain ⟨hfirst, hlast, hstep⟩ := hn
  rintro ⟨hfirst', hlast', hstep'⟩
  rcases hapart with (hbelow | habove) | ⟨⟨hone | htwo, htwo'⟩, hodd⟩
  · omega
  · omega
  · rw [htwo'] at hstep'
    omega
  · rw [htwo] at hstep
    rw [htwo'] at hstep'
    omega

/-- A character that lowercasing leaves alone wherever it stands. -/
def IsLowercase (c : Char) : Prop := c.toNat ≠ 0x3A3 ∧ lowercaseChar c = [c]

instance (c : Char) : Decidable (IsLowercase c) := inferInstanceAs (Decidable (_ ∧ _))

theorem isLowercase_foldChar {c : Char} (hc : c.toNat < 0x80) : IsLowercase (foldChar c) := by
  have hascii : (foldChar c).toNat < 0x80 := by
    rcases foldChar_eq_self_or c with hself | ⟨-, hlast, -⟩
    · rwa [hself]
    · omega
  refine ⟨by omega, ?_⟩
  rw [lowercaseChar, if_pos hascii, foldChar_foldChar]

theorem IsLowercase.foldChar_eq {c : Char} (h : IsLowercase c) : foldChar c = c := by
  by_cases hascii : c.toNat < 0x80
  · have hchar := h.2
    rw [lowercaseChar, if_pos hascii] at hchar
    exact List.singleton_injective hchar
  · exact (foldChar_eq_self_or c).resolve_right (by omega)

theorem foldChar_eq_self_of_not_inRun {c : Char} (h : ¬InRun c.toNat (0x41, 0x5A, 1, 32)) :
    foldChar c = c := by
  refine if_neg fun hcapital ↦ h ?_
  exact ⟨hcapital.1, hcapital.2, Nat.mod_one _⟩

/-- Beyond ASCII a character becomes one in lowercase. -/
theorem isLowercase_lowercaseByRuns {c : Char} (hascii : ¬c.toNat < 0x80)
    (hdotted : ¬(c.toNat == 0x130) = true) (hsigma : c.toNat ≠ 0x3A3) :
    IsLowercase (lowercaseByRuns c.toNat lowercaseRuns) := by
  rcases lowercaseByRuns_cases runLeads_lowercaseRuns with ⟨-, hself⟩ | ⟨r, hr, hin, hval⟩
  · rw [hself]
    exact ⟨hsigma, by rw [lowercaseChar, if_neg hascii, if_neg hdotted, hself]⟩
  · -- the new character is in no run, so that it stays
    have hnone := fun q (hq : q ∈ restlessRuns) ↦ not_inRun_of_shift hr hin hval hq
    generalize lowercaseByRuns c.toNat lowercaseRuns = d at hnone
    have hdotted' : ¬(d.toNat == 0x130) = true := fun hd ↦
      hnone _ List.mem_cons_self (by rw [beq_iff_eq.1 hd]; decide)
    refine ⟨fun hd ↦ hnone (0x3A3, 0x3AB, 1, 32) (by decide) (by rw [hd]; decide), ?_⟩
    rw [lowercaseChar, if_neg hdotted']
    split
    · rw [foldChar_eq_self_of_not_inRun (hnone _ (by decide))]
    · rcases lowercaseByRuns_cases (c := d) runLeads_lowercaseRuns with
        ⟨-, hself⟩ | ⟨q, hq, hin', -⟩
      · rw [hself]
      · exact absurd hin' (hnone q (List.mem_cons_of_mem _ hq))

/-- Whatever is lowercased is in lowercase then. -/
theorem isLowercase_of_mem_lowercaseFrom {d : Char} {before cs : List Char}
    (h : d ∈ lowercaseFrom before cs) : IsLowercase d := by
  rcases of_mem_lowercaseFrom h with (rfl | rfl) | ⟨c, -, hsigma, hchar⟩
  · decide
  · decide
  · rw [lowercaseChar] at hchar
    split at hchar
    · rename_i hascii
      obtain rfl := List.mem_singleton.1 hchar
      exact isLowercase_foldChar hascii
    · rename_i hascii
      split at hchar
      · rcases List.mem_pair.1 hchar with rfl | rfl <;> decide
      · rename_i hdotted
        obtain rfl := List.mem_singleton.1 hchar
        exact isLowercase_lowercaseByRuns hascii hdotted hsigma

theorem lowercaseFrom_eq_self {before cs : List Char} (h : ∀ c ∈ cs, IsLowercase c) :
    lowercaseFrom before cs = cs := by
  induction cs generalizing before with
  | nil => rfl
  | cons c cs ih =>
    obtain ⟨hsigma, hchar⟩ := h c List.mem_cons_self
    have hrest : lowercaseFrom (c :: before) cs = cs :=
      ih fun d hd ↦ h d (List.mem_cons_of_mem c hd)
    rw [lowercaseFrom, if_neg (by rwa [beq_iff_eq]), hchar, hrest, List.singleton_append]

/-- **A text in lowercase stays as it is when it is lowercased again.** -/
theorem lowercase_lowercase (s : String) : lowercase (lowercase s) = lowercase s := by
  have hself : lowercaseFrom [] (lowercase s).toList = (lowercase s).toList := by
    refine lowercaseFrom_eq_self fun c hc ↦ ?_
    rw [lowercase, String.toList_ofList] at hc
    exact isLowercase_of_mem_lowercaseFrom hc
  rw [lowercase, hself, String.ofList_toList]

/-- A character of ASCII that is no capital letter stays in a text that is lowercased. -/
theorem mem_lowercaseFrom {c : Char} (hascii : c.toNat < 0x80) (hsmall : foldChar c = c)
    {before cs : List Char} (h : c ∈ cs) : c ∈ lowercaseFrom before cs := by
  induction cs generalizing before with
  | nil => cases h
  | cons d cs ih =>
    rw [lowercaseFrom, List.mem_append]
    rcases List.mem_cons.1 h with rfl | h
    · have hsigma : ¬(c.toNat == 0x3A3) = true := by rw [beq_iff_eq]; omega
      rw [if_neg hsigma, lowercaseChar, if_pos hascii, hsmall]
      exact .inl List.mem_cons_self
    · exact .inr (ih h)

theorem mem_lowercase {c : Char} (hascii : c.toNat < 0x80) (hsmall : foldChar c = c) {s : String}
    (h : c ∈ s.toList) : c ∈ (lowercase s).toList := by
  rw [lowercase, String.toList_ofList]
  exact mem_lowercaseFrom hascii hsmall h

end Microblog.Text
