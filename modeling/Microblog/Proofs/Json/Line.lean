import Mathlib.Tactic.SplitIfs
import Microblog.Json.Printer
import Microblog.Proofs.Text.Decimal

/-!
# JSON text is a single line

What control characters there are in a text are escaped, and nothing else that is written is one.
So no printed value has a control character in it (`Json.isPlain_print`), and in particular no end
of a line (`Json.not_mem_render`).
-/

set_option autoImplicit false

namespace Microblog

open Text

/-- There is no control character among these. -/
def IsPlain (cs : List Char) : Prop := ∀ c ∈ cs, 0x20 ≤ c.toNat

instance (cs : List Char) : Decidable (IsPlain cs) := List.decidableBAll _ cs

namespace IsPlain

variable {c : Char} {cs cs' : List Char}

theorem nil : IsPlain [] := List.forall_mem_nil _

theorem cons (hc : 0x20 ≤ c.toNat) (h : IsPlain cs) : IsPlain (c :: cs) :=
  List.forall_mem_cons.2 ⟨hc, h⟩

theorem append (h : IsPlain cs) (h' : IsPlain cs') : IsPlain (cs ++ cs') :=
  List.forall_mem_append.2 ⟨h, h'⟩

theorem subset (h : IsPlain cs') (hsubset : cs ⊆ cs') : IsPlain cs := fun c hc ↦ h c (hsubset hc)

end IsPlain

/-! ## Quoted text -/

theorem toNat_digitChar {d : Nat} (hd : d < 16) : 0x20 ≤ (Nat.digitChar d).toNat := by
  revert d
  decide

theorem isPlain_escapeChar (c : Char) : IsPlain (escapeChar c) := by
  rw [escapeChar]
  split_ifs with hquote hslash hline hreturn htab hback hfeed hcontrol
  -- a backslash and a letter stand for most of those that are escaped
  all_goals try decide
  · have hhigh := toNat_digitChar (show c.toNat / 16 < 16 by omega)
    have hlow := toNat_digitChar (Nat.mod_lt c.toNat (by decide : 0 < 16))
    exact .append (show IsPlain ['\\', 'u', '0', '0'] by decide) (.cons hhigh (.cons hlow .nil))
  · exact .cons (Nat.le_of_not_lt hcontrol) .nil

theorem isPlain_quote (s : String) : IsPlain (quote s) := by
  have htext : IsPlain (s.toList.flatMap escapeChar) := by
    intro c hc
    obtain ⟨d, -, hd⟩ := List.mem_flatMap.1 hc
    exact isPlain_escapeChar d c hd
  exact .append (.cons (by decide) htext) (by decide)

/-! ## Numbers -/

theorem isPlain_digits (n : Nat) : IsPlain (Decimal.digits n) := fun _ hc ↦
  Nat.le_trans (by decide) (Char.isDigit_iff_toNat.1 (Decimal.isDigit_of_mem_digits hc)).1

theorem isPlain_renderChars (n : Int) : IsPlain (Decimal.renderChars n) := by
  cases n with
  | ofNat n => exact isPlain_digits n
  | negSucc n => exact .cons (by decide) (isPlain_digits (n + 1))

theorem isPlain_replicate_zero (n : Nat) : IsPlain (List.replicate n '0') := by
  intro c hc
  obtain rfl := List.eq_of_mem_replicate hc
  decide

theorem isPlain_printDecimal {digits : List Char} (h : IsPlain digits) (exponent : Int) :
    IsPlain (printDecimal digits exponent) := by
  have htake (n : Nat) : IsPlain (digits.take n) := h.subset (List.take_subset n digits)
  have hdrop (n : Nat) : IsPlain (digits.drop n) := h.subset (List.drop_subset n digits)
  rw [printDecimal]
  split_ifs
  · exact (h.append (isPlain_replicate_zero _)).append (by decide)
  · exact (htake _).append (.cons (by decide) (hdrop _))
  · exact (.cons (by decide) (.cons (by decide) (isPlain_replicate_zero _)) : IsPlain _).append h
  · exact ((htake 1).append .nil).append (.cons (by decide) (isPlain_renderChars _))
  · exact ((htake 1).append (.cons (by decide) (hdrop 1))).append
      (.cons (by decide) (isPlain_renderChars _))

theorem Number.isPlain_print (n : Number) : IsPlain n.print := by
  cases n with
  | int n => exact isPlain_renderChars n
  | decimal negative digits exponent =>
    rw [Number.print]
    refine .append ?_ ?_
    · cases negative <;> decide
    · split_ifs
      · decide
      · exact isPlain_printDecimal (isPlain_digits _) _

/-! ## Values -/

namespace Json

mutual

/-- **No printed value has a control character in it.** -/
theorem isPlain_print : ∀ j : Json, IsPlain j.print
  | .null => by decide
  | .bool true => by decide
  | .bool false => by decide
  | .number n => n.isPlain_print
  | .text s => isPlain_quote s
  | .list [] => by decide
  | .list (item :: items) =>
    .append (.cons (by decide) item.isPlain_print) (isPlain_printItems items)
  | .record [] => by decide
  | .record ((name, value) :: members) =>
    .append
      (.append (.cons (by decide) (isPlain_quote name)) (.cons (by decide) value.isPlain_print))
      (isPlain_printMembers members)

theorem isPlain_printItems : ∀ items : List Json, IsPlain (printItems items)
  | [] => by decide
  | item :: items =>
    .append (.cons (by decide) item.isPlain_print) (isPlain_printItems items)

theorem isPlain_printMembers : ∀ members : List (String × Json), IsPlain (printMembers members)
  | [] => by decide
  | (name, value) :: members =>
    .append
      (.append (.cons (by decide) (isPlain_quote name)) (.cons (by decide) value.isPlain_print))
      (isPlain_printMembers members)

end

/-- A control character, such as the end of a line, is in no text of a value. -/
theorem not_mem_render (j : Json) {c : Char} (hc : c.toNat < 0x20) : c ∉ j.render.toList := by
  rw [render, String.toList_ofList]
  intro hmem
  exact absurd (j.isPlain_print c hmem) (Nat.not_le_of_lt hc)

end Json

end Microblog
