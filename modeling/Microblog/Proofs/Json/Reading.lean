import Mathlib.Tactic.SplitIfs
import Microblog.Json.Printer
import Microblog.Json.Shape
import Microblog.Proofs.Text.Decimal

/-!
# Reading what was printed

A value that is printed and read again comes back as it was, if its numbers are integers of 64 bits
(`Draft.readWhole_print`).  Texts may hold any characters: those that are escaped are read as what
they stand for (`readText_quote`).

The theorem about values is by recursion over the value, together with those about the items of a
list and the members of a record.  It holds with any text behind the value that cannot go on with a
number (`Json.Follows`), and with any fuel that is not below the length of what is read.
-/

set_option autoImplicit false

namespace Microblog

open Text

/-! ## Values that can be read back -/

mutual

/-- Whether all numbers of a value are integers of 64 bits. -/
def Json.Fits : Json → Prop
  | .null | .bool _ | .text _ => True
  | .number (.int n) => Decimal.Fits n
  | .number (.decimal _ _ _) => False
  | .list items => Json.ItemsFit items
  | .record members => Json.MembersFit members

/-- Whether this is so for all items. -/
def Json.ItemsFit : List Json → Prop
  | [] => True
  | item :: items => item.Fits ∧ Json.ItemsFit items

/-- Whether this is so for all members. -/
def Json.MembersFit : List (String × Json) → Prop
  | [] => True
  | (_, value) :: members => value.Fits ∧ Json.MembersFit members

end

mutual

/-- The draft of a value all of which was read. -/
def Draft.ofJson : Json → Draft
  | .null => .null
  | .bool b => .bool b
  | .number n => .number (some n)
  | .text s => .text (some s)
  | .list items => .list (Draft.ofItems items) true
  | .record members => .record (Draft.ofMembers members) true

/-- The drafts of items. -/
def Draft.ofItems : List Json → List Draft
  | [] => []
  | item :: items => Draft.ofJson item :: Draft.ofItems items

/-- The drafts of members. -/
def Draft.ofMembers : List (String × Json) → List (Option String × Draft)
  | [] => []
  | (name, value) :: members => (some name, Draft.ofJson value) :: Draft.ofMembers members

end

namespace Json

theorem itemsFit_iff {items : List Json} : ItemsFit items ↔ ∀ item ∈ items, item.Fits := by
  induction items with
  | nil => simp [ItemsFit]
  | cons item items ih => rw [ItemsFit, ih, List.forall_mem_cons]

theorem membersFit_iff {members : List (String × Json)} :
    MembersFit members ↔ ∀ m ∈ members, m.2.Fits := by
  induction members with
  | nil => simp [MembersFit]
  | cons m members ih => rw [MembersFit, ih, List.forall_mem_cons]

end Json

namespace Draft

theorem ofItems_eq (items : List Json) : ofItems items = items.map ofJson := by
  induction items with
  | nil => rfl
  | cons item items ih => rw [ofItems, ih, List.map_cons]

end Draft

/-! ## Quoted text -/

/-- The piece as which a character is written. -/
def Piece.of (c : Char) : Piece :=
  if c.toNat < 0x20 ∧ c ∉ ['\n', '\r', '\t', '\x08', '\x0c'] then .unit c.toNat else .char c

/-- The unit of a control character, from its two digits. -/
theorem unit?_control {n : Nat} (hn : n < 0x20) :
    unit? '0' '0' (Nat.digitChar (n / 16)) (Nat.digitChar (n % 16)) = some n := by
  have hhigh := hexDigit?_digitChar (n := n / 16) (by omega)
  have hlow := hexDigit?_digitChar (n := n % 16) (by omega)
  have hzero : hexDigit? '0' = some 0 := rfl
  have hsum : ((0 * 16 + 0) * 16 + n / 16) * 16 + n % 16 = n := by omega
  rw [unit?, hzero, hhigh, hlow]
  exact congrArg some hsum

/-- A character is read as the piece as which it was written. -/
theorem readPieces_escapeChar (c : Char) (cs : List Char) :
    readPieces (escapeChar c ++ cs) =
      (readPieces cs).map fun (ps, rest) ↦ (.of c :: ps, rest) := by
  rw [escapeChar]
  split_ifs with hquote hslash hline hreturn htab hback hfeed hcontrol
  · subst hquote; rfl
  · subst hslash; rfl
  · subst hline; rfl
  · subst hreturn; rfl
  · subst htab; rfl
  · subst hback; rfl
  · subst hfeed; rfl
  · have hpiece : Piece.of c = .unit c.toNat := if_pos ⟨hcontrol, by simp [*]⟩
    simp only [List.cons_append, List.nil_append, readPieces, unit?_control hcontrol, hpiece]
  · have hpiece : Piece.of c = .char c := if_neg fun h ↦ hcontrol h.1
    rw [List.singleton_append, readPieces.eq_def]
    split
    · simp_all
    · simp_all
    · simp_all
    · simp_all
    · rename_i heq
      obtain ⟨rfl, rfl⟩ := List.cons.inj heq
      rw [if_neg (by simp [hcontrol, hslash]), hpiece]

theorem readPieces_flatMap (cs rest : List Char) :
    readPieces (cs.flatMap escapeChar ++ '"' :: rest) = some (cs.map Piece.of, rest) := by
  induction cs with
  | nil => rfl
  | cons c cs ih =>
    rw [List.flatMap_cons, List.append_assoc, readPieces_escapeChar, ih, List.map_cons]
    rfl

/-- The pieces of a text are joined to that text. -/
theorem joinPieces_map (cs : List Char) : joinPieces (cs.map Piece.of) = some cs := by
  induction cs with
  | nil => rfl
  | cons c cs ih =>
    rw [List.map_cons, Piece.of]
    split
    · rename_i hcontrol
      have hsmall : c.toNat < 0xD800 ∨ 0xE000 ≤ c.toNat := by omega
      rw [joinPieces.eq_def]
      simp only [if_pos hsmall, ih, Char.ofNat_toNat, Option.map_some]
    · rw [joinPieces, ih]
      rfl

/-- **A quoted text is read as the text that was quoted**, whatever characters are in it. -/
theorem readText_quote (s : String) (rest : List Char) :
    readText (s.toList.flatMap escapeChar ++ '"' :: rest) = some (some s, rest) := by
  rw [readText, readPieces_flatMap, Option.map_some]
  simp only [joinPieces_map, Option.map_some, String.ofList_toList]

/-! ## Numbers -/

/-- What follows does not go on with a number. -/
def Json.Follows (cs : List Char) : Prop := ∀ c ∈ cs.head?, c ∈ [',', ']', '\x7d']

/-- Digits whose number has 64 bits are all taken. -/
theorem takeDigits_eq {ds : List Char} {n : Nat} (h : Nat.ofDigitChars 10 ds n < .pow 2 64) :
    takeDigits n ds = (Nat.ofDigitChars 10 ds n, 0) := by
  induction ds generalizing n with
  | nil => rfl
  | cons d ds ih =>
    have hrest : Nat.ofDigitChars 10 (d :: ds) n =
        Nat.ofDigitChars 10 ds (Nat.ofDigitChars 10 [d] n) := rfl
    rw [hrest] at h ⊢
    have hfirst : Nat.ofDigitChars 10 [d] n < .pow 2 64 :=
      Nat.lt_of_le_of_lt (Decimal.ofDigitChars_le (Nat.le_refl _)) h
    rw [takeDigits]
    exact (if_pos hfirst).trans (ih h)

theorem readWhole_digits {negative : Bool} {n : Nat} (h : n < .pow 2 64) :
    Microblog.readWhole negative (Decimal.digits n) = some (.integral negative n) := by
  have htaken : takeDigits 0 (Decimal.digits n) = (n, 0) := by
    rw [takeDigits_eq (by rwa [Decimal.ofDigitChars_digits]), Decimal.ofDigitChars_digits]
  simp only [Microblog.readWhole, htaken]

theorem spanDigits_digits (n : Nat) {rest : List Char} (hrest : Json.Follows rest) :
    spanDigits (Decimal.digits n ++ rest) = (Decimal.digits n, rest) := by
  have hdigits : ∀ c ∈ Decimal.digits n, c.isDigit = true := fun c ↦
    Decimal.isDigit_of_mem_digits
  have hstop : rest.takeWhile (·.isDigit) = [] ∧ rest.dropWhile (·.isDigit) = rest := by
    cases rest with
    | nil => exact ⟨rfl, rfl⟩
    | cons c rest =>
      have hc : c.isDigit = false := by
        have hmem := hrest c rfl
        revert hmem
        simp only [List.mem_cons, List.not_mem_nil, or_false]
        rintro (rfl | rfl | rfl) <;> rfl
      simp [hc]
  rw [spanDigits, List.takeWhile_append_of_pos hdigits, List.dropWhile_append_of_pos hdigits,
    hstop.1, hstop.2, List.append_nil]

/-- Without a point and an exponent there is a whole number. -/
theorem readFraction_follows {negative : Bool} {whole rest : List Char}
    (hrest : Json.Follows rest) :
    readFraction negative whole rest = some (Microblog.readWhole negative whole, rest) := by
  cases rest with
  | nil => rfl
  | cons c rest =>
    have hmem := hrest c rfl
    simp only [List.mem_cons, List.not_mem_nil, or_false] at hmem
    rcases hmem with rfl | rfl | rfl <;> rfl

theorem readUnsigned_digits {negative : Bool} {n : Nat} {rest : List Char} (h : n < .pow 2 64)
    (hrest : Json.Follows rest) :
    readUnsigned negative (Decimal.digits n ++ rest) =
      some (some (.integral negative n), rest) := by
  rw [readUnsigned, spanDigits_digits n hrest]
  split
  · rename_i heq
    exact absurd (Prod.mk.inj heq).1 (Decimal.digits_ne_nil n)
  · rename_i heq
    -- a zero stands before other digits in no number
    exact nomatch Decimal.eq_nil_of_digits_eq (Prod.mk.inj heq).1
  · rename_i heq
    obtain ⟨rfl, rfl⟩ := Prod.mk.inj heq
    rw [readFraction_follows hrest, readWhole_digits h]

/-- An integer of 64 bits is read as it was written. -/
theorem readNumber_renderChars {n : Int} {rest : List Char} (h : Decimal.Fits n)
    (hrest : Json.Follows rest) :
    readNumber (Decimal.renderChars n ++ rest) = some (some (.int n), rest) := by
  have hleast : Decimal.least = -9223372036854775808 := rfl
  have hgreatest : Decimal.greatest = 9223372036854775807 := rfl
  have hpow : Nat.pow 2 64 = 18446744073709551616 := rfl
  obtain ⟨hlow, hhigh⟩ := h
  cases n with
  | ofNat n =>
    have hcast : Int.ofNat n = (n : Int) := rfl
    have hn : n < .pow 2 64 := by omega
    have hplain : readNumber (Decimal.digits n ++ rest) =
        readUnsigned false (Decimal.digits n ++ rest) := by
      obtain ⟨c, cs, hdigits⟩ := List.exists_cons_of_ne_nil (Decimal.digits_ne_nil n)
      have hc : c ≠ '-' := by
        rintro rfl
        exact Decimal.not_mem_digits rfl (hdigits ▸ List.mem_cons_self)
      rw [hdigits, List.cons_append, readNumber]
      simpa using hc
    rw [Decimal.renderChars, hplain, readUnsigned_digits hn hrest]
    rfl
  | negSucc n =>
    have hn : n + 1 < .pow 2 64 := by omega
    have hsmall : ¬(n + 1 = 0 ∨ Nat.pow 2 63 < n + 1) := by
      have hpow' : Nat.pow 2 63 = 9223372036854775808 := rfl
      omega
    rw [Decimal.renderChars, List.cons_append, readNumber, readUnsigned_digits hn hrest,
      Number.integral, if_pos rfl, if_neg hsmall]
    rfl

/-! ## Values -/

/-- The first character of a written value: no blank, and not the end of a list. -/
def Json.Starts (c : Char) : Prop := c ∉ [' ', '\n', '\t', '\r'] ∧ c ≠ ']'

instance (c : Char) : Decidable (Json.Starts c) := inferInstanceAs (Decidable (_ ∧ _))

theorem skipBlanks_cons {c : Char} {cs : List Char} (hc : c ∉ [' ', '\n', '\t', '\r']) :
    skipBlanks (c :: cs) = c :: cs := by
  simp only [List.mem_cons, List.not_mem_nil, or_false] at hc
  rw [skipBlanks, List.dropWhile_cons_of_neg (by simpa using hc)]

/-- An integer starts with a digit or a minus sign. -/
theorem renderChars_eq_cons (n : Int) :
    ∃ c cs, Decimal.renderChars n = c :: cs ∧ (c.isDigit = true ∨ c = '-') := by
  cases n with
  | ofNat n =>
    obtain ⟨c, cs, hdigits⟩ := List.exists_cons_of_ne_nil (Decimal.digits_ne_nil n)
    have hmem : c ∈ Decimal.digits n := hdigits ▸ List.mem_cons_self
    exact ⟨c, cs, hdigits, .inl (Decimal.isDigit_of_mem_digits hmem)⟩
  | negSucc n => exact ⟨'-', Decimal.digits (n + 1), rfl, .inr rfl⟩

theorem starts_of_isDigit {c : Char} (hc : c.isDigit = true ∨ c = '-') : Json.Starts c := by
  rcases hc with hc | rfl
  · refine ⟨fun hmem ↦ ?_, ?_⟩
    · simp only [List.mem_cons, List.not_mem_nil, or_false] at hmem
      rcases hmem with rfl | rfl | rfl | rfl <;> cases hc
    · rintro rfl
      cases hc
  · decide

/-- A written value starts with a character that is no blank and does not end a list. -/
theorem Json.print_eq_cons {j : Json} (h : j.Fits) :
    ∃ c cs, j.print = c :: cs ∧ Json.Starts c := by
  match j, h with
  | .null, _ => exact ⟨_, _, rfl, by decide⟩
  | .bool true, _ => exact ⟨_, _, rfl, by decide⟩
  | .bool false, _ => exact ⟨_, _, rfl, by decide⟩
  | .text s, _ => exact ⟨_, _, by rw [Json.print]; rfl, by decide⟩
  | .list [], _ => exact ⟨_, _, by rw [Json.print], by decide⟩
  | .list (_ :: _), _ =>
    exact ⟨_, _, by rw [Json.print, List.cons_append], by decide⟩
  | .record [], _ => exact ⟨_, _, by rw [Json.print], by decide⟩
  | .record ((_, _) :: _), _ =>
    exact ⟨_, _, by rw [Json.print, List.cons_append, List.cons_append],
      by decide⟩
  | .number (.int n), _ =>
    obtain ⟨c, cs, hchars, hc⟩ := renderChars_eq_cons n
    exact ⟨c, cs, by rw [Json.print, Number.print, hchars], starts_of_isDigit hc⟩

theorem Json.one_le_length_print {j : Json} (h : j.Fits) : 1 ≤ j.print.length := by
  obtain ⟨c, cs, hprint, -⟩ := Json.print_eq_cons h
  rw [hprint, List.length_cons]
  omega

theorem Json.one_le_length_printItems (items : List Json) : 1 ≤ (printItems items).length := by
  cases items with
  | nil => exact Nat.le_refl 1
  | cons item items => rw [printItems, List.cons_append, List.length_cons]; omega

theorem Json.one_le_length_printMembers (members : List (String × Json)) :
    1 ≤ (printMembers members).length := by
  cases members with
  | nil => exact Nat.le_refl 1
  | cons m members => rw [printMembers, List.cons_append, List.cons_append, List.length_cons]; omega

/-- Behind a value inside a list there is a comma or the end of the list. -/
theorem Json.follows_printItems (items : List Json) (rest : List Char) :
    Json.Follows (printItems items ++ rest) := by
  intro c hc
  cases items with
  | nil => cases hc; decide
  | cons item items =>
    rw [printItems] at hc
    cases hc
    decide

/-- Behind a value inside a record there is a comma or the end of the record. -/
theorem Json.follows_printMembers (members : List (String × Json)) (rest : List Char) :
    Json.Follows (printMembers members ++ rest) := by
  intro c hc
  cases members with
  | nil => cases hc; decide
  | cons m members =>
    rw [printMembers] at hc
    cases hc
    decide

namespace Draft

/-- What starts like a number is read as one. -/
theorem readValue_number {fuel : Nat} {c : Char} {cs rest : List Char} {n : Option Number}
    (hc : c.isDigit = true ∨ c = '-') (hnumber : readNumber (c :: cs) = some (n, rest)) :
    readValue (fuel + 1) (c :: cs) = (.number n, rest) := by
  have hother : ∀ d ∈ ['n', 't', 'f', '"', '[', '\x7b'], c ≠ d := by
    rintro d hd rfl
    simp only [List.mem_cons, List.not_mem_nil, or_false] at hd
    rcases hc with hc | rfl
    · rcases hd with rfl | rfl | rfl | rfl | rfl | rfl <;> cases hc
    · revert hd; decide
  rw [readValue, skipBlanks_cons (starts_of_isDigit hc).1]
  split
  case h_7 => rw [hnumber]
  all_goals
    rename_i heq
    exact absurd (List.cons.inj heq).1 (hother _ (by decide))

/-- The first item of a list is read, then the others. -/
theorem readItems_first {fuel : Nat} {c : Char} {cs behind rest : List Char} {item : Draft}
    {items : List Draft} {closed : Bool} (hc : Json.Starts c)
    (hitem : readValue fuel (c :: cs) = (item, behind))
    (hitems : readItems fuel false behind = ((items, closed), rest)) :
    readItems (fuel + 1) true (c :: cs) = ((item :: items, closed), rest) := by
  rw [readItems.eq_def]
  simp only [skipBlanks_cons hc.1]
  split
  · rename_i heq
    exact absurd (List.cons.inj heq).1 hc.2
  · simp only [hitem, hitems]
  · contradiction
  · contradiction

/-- After a comma an item is read, then the others. -/
theorem readItems_next {fuel : Nat} {cs behind rest : List Char} {item : Draft}
    {items : List Draft} {closed : Bool} (hitem : readValue fuel cs = (item, behind))
    (hitems : readItems fuel false behind = ((items, closed), rest)) :
    readItems (fuel + 1) false (',' :: cs) = ((item :: items, closed), rest) := by
  rw [readItems.eq_def]
  simp only [skipBlanks_cons (c := ',') (by decide), hitem, hitems]

/-- A member is read, then the others. -/
theorem readMember_quote {fuel : Nat} {name : String} {cs behind rest : List Char} {value : Draft}
    {members : List (Option String × Draft)} {closed : Bool}
    (hvalue : readValue fuel cs = (value, behind))
    (hmembers : readMembers fuel false behind = ((members, closed), rest)) :
    readMember (fuel + 1) (name.toList.flatMap escapeChar ++ '"' :: ':' :: cs) =
      (((some name, value) :: members, closed), rest) := by
  rw [readMember, readText_quote]
  simp only [skipBlanks_cons (c := ':') (by decide), hvalue, hmembers]

/-- The first member of a record starts with a quote. -/
theorem readMembers_first {fuel : Nat} {cs : List Char} :
    readMembers (fuel + 1) true ('"' :: cs) = readMember fuel cs := by
  rw [readMembers.eq_def]
  simp only [skipBlanks_cons (c := '"') (by decide)]

/-- The next member starts with a quote after a comma. -/
theorem readMembers_next {fuel : Nat} {cs : List Char} :
    readMembers (fuel + 1) false (',' :: '"' :: cs) = readMember fuel cs := by
  rw [readMembers.eq_def]
  simp only [skipBlanks_cons (c := ',') (by decide), skipBlanks_cons (c := '"') (by decide)]

theorem quote_append (name : String) (cs : List Char) :
    quote name ++ cs = '"' :: (name.toList.flatMap escapeChar ++ '"' :: cs) := by
  simp [quote]

theorem length_quote (name : String) :
    (quote name).length = (name.toList.flatMap escapeChar).length + 2 := by
  rw [quote, List.length_append, List.length_cons, List.length_singleton]

mutual

/-- **A value that was written is read as it was**, whatever comes after it, and what comes after it
is left. -/
theorem readValue_print {fuel : Nat} {j : Json} {rest : List Char} (hfits : j.Fits)
    (hfuel : j.print.length ≤ fuel) (hrest : Json.Follows rest) :
    readValue fuel (j.print ++ rest) = (.ofJson j, rest) := by
  match j, fuel with
  | .null, fuel + 1 => rfl
  | .bool true, fuel + 1 => rfl
  | .bool false, fuel + 1 => rfl
  | .text s, fuel + 1 =>
    rw [Json.print, quote_append, readValue, skipBlanks_cons (by decide)]
    simp only [readText_quote]
    rfl
  | .number (.int n), fuel =>
    obtain ⟨c, cs, hchars, hc⟩ := renderChars_eq_cons n
    have hnumber : readNumber (Decimal.renderChars n ++ rest) = some (some (.int n), rest) :=
      readNumber_renderChars hfits hrest
    rw [Json.print, Number.print, hchars] at hfuel ⊢
    rw [hchars] at hnumber
    obtain ⟨fuel, rfl⟩ : ∃ k, fuel = k + 1 := Nat.exists_eq_add_of_le' (by simp at hfuel; omega)
    exact readValue_number hc hnumber
  | .list [], fuel + 2 => rfl
  | .list (item :: items), fuel =>
    have hone := Json.one_le_length_print hfits.1
    have hend := Json.one_le_length_printItems items
    simp only [Json.print, List.cons_append, List.append_assoc, List.length_cons,
      List.length_append] at hfuel ⊢
    obtain ⟨fuel, rfl⟩ : ∃ k, fuel = k + 2 := Nat.exists_eq_add_of_le' (by omega)
    have hitem : readValue fuel (item.print ++ (Json.printItems items ++ rest)) =
        (.ofJson item, Json.printItems items ++ rest) :=
      readValue_print hfits.1 (by omega) (Json.follows_printItems items rest)
    have hitems : readItems fuel false (Json.printItems items ++ rest) =
        ((ofItems items, true), rest) := readItems_print hfits.2 (by omega)
    obtain ⟨c, cs, hprint, hc⟩ := Json.print_eq_cons hfits.1
    rw [hprint, List.cons_append] at hitem ⊢
    rw [readValue, skipBlanks_cons (by decide)]
    simp only [readItems_first hc hitem hitems]
    rfl
  | .record [], fuel + 2 => rfl
  | .record ((name, value) :: members), fuel =>
    have hend := Json.one_le_length_printMembers members
    simp only [Json.print, List.cons_append, List.append_assoc, List.length_cons,
      List.length_append, length_quote] at hfuel ⊢
    obtain ⟨fuel, rfl⟩ : ∃ k, fuel = k + 3 := Nat.exists_eq_add_of_le' (by omega)
    have hvalue : readValue fuel (value.print ++ (Json.printMembers members ++ rest)) =
        (.ofJson value, Json.printMembers members ++ rest) :=
      readValue_print hfits.1 (by omega) (Json.follows_printMembers members rest)
    have hmembers : readMembers fuel false (Json.printMembers members ++ rest) =
        ((ofMembers members, true), rest) := readMembers_print hfits.2 (by omega)
    rw [quote_append, readValue, skipBlanks_cons (by decide)]
    simp only [readMembers_first, readMember_quote hvalue hmembers]
    rfl

/-- The items after the first one are read to the end of the list. -/
theorem readItems_print {fuel : Nat} {items : List Json} {rest : List Char}
    (hfits : Json.ItemsFit items) (hfuel : (Json.printItems items).length ≤ fuel) :
    readItems fuel false (Json.printItems items ++ rest) = ((ofItems items, true), rest) := by
  match items, fuel with
  | [], fuel + 1 => rfl
  | item :: items, fuel + 1 =>
    rw [Json.printItems, List.cons_append, List.length_cons, List.length_append] at hfuel
    rw [Json.printItems, List.cons_append, List.cons_append, List.append_assoc]
    have hitem : item.print.length ≤ fuel := by omega
    have hmore : (Json.printItems items).length ≤ fuel := by omega
    exact readItems_next (readValue_print hfits.1 hitem (Json.follows_printItems items rest))
      (readItems_print hfits.2 hmore)

/-- The members after the first one are read to the end of the record. -/
theorem readMembers_print {fuel : Nat} {members : List (String × Json)} {rest : List Char}
    (hfits : Json.MembersFit members) (hfuel : (Json.printMembers members).length ≤ fuel) :
    readMembers fuel false (Json.printMembers members ++ rest) =
      ((ofMembers members, true), rest) := by
  match members, fuel with
  | [], fuel + 1 => rfl
  | (name, value) :: members, fuel =>
    have hend := Json.one_le_length_printMembers members
    simp only [Json.printMembers, List.cons_append, List.append_assoc, List.length_cons,
      List.length_append, length_quote] at hfuel ⊢
    obtain ⟨fuel, rfl⟩ : ∃ k, fuel = k + 2 := Nat.exists_eq_add_of_le' (by omega)
    have hvalue : readValue fuel (value.print ++ (Json.printMembers members ++ rest)) =
        (.ofJson value, Json.printMembers members ++ rest) :=
      readValue_print hfits.1 (by omega) (Json.follows_printMembers members rest)
    have hmembers : readMembers fuel false (Json.printMembers members ++ rest) =
        ((ofMembers members, true), rest) := readMembers_print hfits.2 (by omega)
    rw [quote_append, readMembers_next, readMember_quote hvalue hmembers]
    rfl

end

/-- A text that consists of a written value is read as that value. -/
theorem readWhole_print {j : Json} (h : j.Fits) : readWhole j.print = .ofJson j := by
  have hread : readValue (2 * j.print.length + 1) (j.print ++ []) = (.ofJson j, []) :=
    readValue_print h (by omega) (fun _ hc ↦ nomatch hc)
  rw [List.append_nil] at hread
  rw [readWhole, read, hread]
  rfl

end Draft

/-- What a decoder makes of a written value. -/
theorem Decoder.parse_render {α : Type} (decode : Decoder α) {j : Json} (h : j.Fits) :
    decode.parse j.render = decode (.ofJson j) := by
  rw [Decoder.parse, Json.render, String.toList_ofList, Draft.readWhole_print h]

end Microblog
