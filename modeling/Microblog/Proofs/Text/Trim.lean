import Mathlib.Data.List.Basic
import Mathlib.Data.List.TakeWhile
import Microblog.Text.Blank

/-!
# Blanks around a text

`trimChars` takes the blanks off the two ends of a text, and nothing else.  What is left is known by
three things (`Trimmed`): blanks around it make the text, and neither its first nor its last
character is blank.  There is only one such rest (`trimChars_eq_iff`).
-/

set_option autoImplicit false

namespace Microblog.Text

variable {cs word : List Char}

/-- `word` is what is left of `cs` without the blanks around it. -/
structure Trimmed (cs word : List Char) : Prop where
  around : ∃ before after, cs = before ++ word ++ after ∧ ∀ c ∈ before ++ after, isBlank c = true
  first : ∀ c ∈ word.head?, isBlank c = false
  last : ∀ c ∈ word.getLast?, isBlank c = false

theorem dropWhile_eq_self (h : ∀ c ∈ cs.head?, isBlank c = false) :
    cs.dropWhile isBlank = cs := by
  cases cs with
  | nil => rfl
  | cons c cs => exact List.dropWhile_cons_of_neg (by simp [h c rfl])

theorem isBlank_head?_dropWhile {c : Char} (h : c ∈ (cs.dropWhile isBlank).head?) :
    isBlank c = false := by
  have hstop := List.head?_dropWhile_not isBlank cs
  rw [Option.mem_def.1 h] at hstop
  exact hstop

theorem trimEnd_append_eq (cs : List Char) :
    ∃ after, trimEnd cs ++ after = cs ∧ ∀ c ∈ after, isBlank c = true := by
  refine ⟨(cs.reverse.takeWhile isBlank).reverse, ?_, fun c hc ↦ ?_⟩
  · rw [trimEnd, ← List.reverse_append, List.takeWhile_append_dropWhile, List.reverse_reverse]
  · exact List.mem_takeWhile_imp (List.mem_reverse.1 hc)

theorem trimmed_trimChars (cs : List Char) : Trimmed cs (trimChars cs) := by
  obtain ⟨after, hafter, hblank⟩ := trimEnd_append_eq (trimStart cs)
  refine ⟨⟨cs.takeWhile isBlank, after, ?_, fun c hc ↦ ?_⟩, fun c hc ↦ ?_, fun c hc ↦ ?_⟩
  · rw [trimChars, List.append_assoc, hafter, trimStart, List.takeWhile_append_dropWhile]
  · exact (List.mem_append.1 hc).elim List.mem_takeWhile_imp (hblank c)
  · -- the first character that is left at the end is the first one that was left at the start
    have hstart : c ∈ (cs.dropWhile isBlank).head? := by
      rw [← trimStart, ← hafter]
      exact List.mem_head?_append_of_mem_head? hc
    exact isBlank_head?_dropWhile hstart
  · rw [trimChars, trimEnd, List.getLast?_reverse] at hc
    exact isBlank_head?_dropWhile hc

theorem Trimmed.trimChars_eq (h : Trimmed cs word) : trimChars cs = word := by
  obtain ⟨⟨before, after, rfl, hblank⟩, hfirst, hlast⟩ := h
  have hbefore : ∀ c ∈ before, isBlank c = true := fun c hc ↦
    hblank c (List.mem_append_left after hc)
  have hafter : ∀ c ∈ after, isBlank c = true := fun c hc ↦
    hblank c (List.mem_append_right before hc)
  rw [trimChars, trimStart, List.append_assoc, List.dropWhile_append_of_pos hbefore]
  cases word with
  | nil =>
    rw [List.nil_append, List.dropWhile_eq_nil_iff.2 hafter]
    rfl
  | cons c word =>
    have hstart : ((c :: word) ++ after).dropWhile isBlank = (c :: word) ++ after :=
      dropWhile_eq_self fun d hd ↦ hfirst d hd
    have hend : (c :: word).reverse.dropWhile isBlank = (c :: word).reverse :=
      dropWhile_eq_self fun d hd ↦ hlast d (by rwa [List.head?_reverse] at hd)
    rw [hstart, trimEnd, List.reverse_append,
      List.dropWhile_append_of_pos fun d hd ↦ hafter d (List.mem_reverse.1 hd), hend,
      List.reverse_reverse]

theorem Trimmed.eq {other : List Char} (h : Trimmed cs word) (hother : Trimmed cs other) :
    word = other :=
  h.trimChars_eq.symm.trans hother.trimChars_eq

/-- **What trimming leaves**: the one text with no blank at its ends that blanks around it make the
given one. -/
theorem trimChars_eq_iff : trimChars cs = word ↔ Trimmed cs word :=
  ⟨fun h ↦ h ▸ trimmed_trimChars cs, Trimmed.trimChars_eq⟩

/-- Where there is no blank, there is nothing to trim. -/
theorem trimChars_eq_self (h : ∀ c ∈ cs, ¬isBlank c = true) : trimChars cs = cs :=
  trimChars_eq_iff.2 ⟨⟨[], [], by simp, by simp⟩,
    fun c hc ↦ by simpa using h c (List.mem_of_mem_head? hc),
    fun c hc ↦ by simpa using h c (List.mem_of_mem_getLast? hc)⟩

end Microblog.Text
