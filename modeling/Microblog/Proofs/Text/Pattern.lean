import Mathlib.Data.List.TakeWhile
import Microblog.Proofs.Text.Lowercase
import Microblog.Text.Pattern

/-!
# What a search pattern finds

A text matches the pattern of a term just if it contains the term in lowercase, where characters
are held against each other as they are compared (`Pattern.like_containing_iff`).  The characters of
the term stand for themselves only: the elements of an escaped text are its characters, whatever
they mean elsewhere (`Pattern.items?_escape_append`).

The term is lowercased, and the text is compared with the letters `A` to `Z` in their small form.  A
text that contains a term is found if the two agree on the term (`Pattern.like_of_infix`).
-/

set_option autoImplicit false

namespace Microblog.Text.Pattern

/-! ## The elements of a pattern -/

theorem items?_escape_append (cs rest : List Char) :
    items? (escape cs ++ rest) = (items? rest).map (cs.map Item.char ++ ·) := by
  induction cs with
  | nil => simp [escape]
  | cons c cs ih =>
    rw [escape]
    split
    · -- the backslash is taken together with the character after it
      rw [List.cons_append, List.cons_append, items?, ih, Option.map_map]
      rfl
    · rename_i hplain
      simp only [not_or] at hplain
      obtain ⟨hpercent, hunderscore, hbackslash⟩ := hplain
      have hitems : ∀ ds, items? (c :: ds) = (items? ds).map (Item.char c :: ·) := fun ds ↦ by
        rw [items?] <;> simp_all
      rw [List.cons_append, hitems, ih, Option.map_map]
      rfl

theorem not_mem_escape {c : Char} (hc : c ≠ '\\') {cs : List Char} (h : c ∉ cs) :
    c ∉ escape cs := by
  induction cs with
  | nil => exact List.not_mem_nil
  | cons d cs ih =>
    obtain ⟨hd, hcs⟩ := not_or.1 (mt List.mem_cons.2 h)
    have hrest := ih hcs
    rw [escape]
    split <;> simp [hc, hd, hrest]

theorem items?_containing (term : String) :
    items? (containing term) =
      some (.any :: ((lowercase term).toList.map Item.char ++ [.any])) := by
  rw [containing, startingWith, items?, items?_escape_append]
  rfl

theorem upToNul_eq_self {cs : List Char} (h : '\x00' ∉ cs) : upToNul cs = cs := by
  rw [upToNul, List.takeWhile_eq_self_iff]
  intro c hc
  exact decide_eq_true fun hnul ↦ h (hnul ▸ hc)

/-- No NUL cuts off the pattern of a term that has none. -/
theorem upToNul_containing {term : String} (h : '\x00' ∉ term.toList) :
    upToNul (containing term) = containing term := by
  refine upToNul_eq_self ?_
  have hescape := not_mem_escape (by decide) (nul_not_mem_lowercase h)
  simp [containing, startingWith, hescape]

/-! ## Matching -/

theorem someEnd_iff {p : List Char → Bool} {cs : List Char} :
    someEnd p cs = true ↔ ∃ ds, ds <:+ cs ∧ p ds = true := by
  induction cs with
  | nil => simp [someEnd]
  | cons c cs ih =>
    rw [someEnd, Bool.or_eq_true, ih]
    constructor
    · rintro (h | ⟨ds, hds, h⟩)
      · exact ⟨_, List.suffix_rfl, h⟩
      · exact ⟨ds, hds.trans (List.suffix_cons c cs), h⟩
    · rintro ⟨ds, hds, h⟩
      rcases List.suffix_cons_iff.1 hds with rfl | hds
      · exact .inl h
      · exact .inr ⟨ds, hds, h⟩

theorem matchItems_any (cs : List Char) : matchItems [.any] cs = true :=
  someEnd_iff.2 ⟨[], List.nil_suffix, rfl⟩

/-- Characters followed by anything match what starts with them. -/
theorem matchItems_chars_iff {cs ds : List Char} :
    matchItems (cs.map Item.char ++ [.any]) ds = true ↔ cs.map compared <+: ds.map compared := by
  induction cs generalizing ds with
  | nil => exact iff_of_true (matchItems_any ds) List.nil_prefix
  | cons c cs ih =>
    cases ds with
    | nil => exact iff_of_false Bool.false_ne_true fun h ↦ by cases List.prefix_nil.1 h
    | cons d ds =>
      rw [List.map_cons, List.map_cons, List.map_cons, List.cons_append, matchItems,
        Bool.and_eq_true, beq_iff_eq, ih, List.cons_prefix_cons]

/-- **A text matches the pattern of a term just if it contains the term**, lowercased and as
characters are compared. -/
theorem like_containing_iff {term : String} (h : '\x00' ∉ term.toList) {text : List Char} :
    like text (containing term) = true ↔
      (lowercase term).toList.map compared <:+: (upToNul text).map compared := by
  rw [like, upToNul_containing h, items?_containing]
  show someEnd _ _ = true ↔ _
  rw [someEnd_iff]
  constructor
  · rintro ⟨ds, hds, hmatch⟩
    exact (matchItems_chars_iff.1 hmatch).isInfix.trans (hds.map compared).isInfix
  · intro hcontained
    obtain ⟨es, hprefix, hes⟩ := List.infix_iff_prefix_suffix.1 hcontained
    -- an end of the compared text is an end of the text, compared
    obtain ⟨ds, hds, rfl⟩ := List.suffix_map_iff.1 hes
    exact ⟨ds, hds, matchItems_chars_iff.2 hprefix⟩

/-! ## Characters with a meaning -/

/-- The characters that mean something in a pattern. -/
def marks : List Char := ['%', '_', '\\']

theorem of_mem_marks {m : Char} (hm : m ∈ marks) :
    compared m = m ∧ foldChar m = m ∧ m.toNat < 0x80 ∧ ¬(97 ≤ m.toNat ∧ m.toNat ≤ 122) := by
  have hcases : m = '%' ∨ m = '_' ∨ m = '\\' := by simpa [marks] using hm
  rcases hcases with rfl | rfl | rfl <;> decide

/-- No other character is compared as a character with a meaning. -/
theorem eq_of_compared_eq {m : Char} (hm : m ∈ marks) {c : Char} (h : compared c = compared m) :
    c = m := by
  obtain ⟨hself, -, hascii, hletter⟩ := of_mem_marks hm
  rw [hself, compared] at h
  split at h
  · rw [← h] at hascii
    exact absurd hascii (by decide)
  · rcases foldChar_eq_self_or c with hfold | ⟨hfirst, hlast, -⟩
    · exact hfold.symm.trans h
    · rw [h] at hfirst hlast
      exact absurd ⟨hfirst, hlast⟩ hletter

/-- A character with a meaning stands for itself: a text that contains a term with it has it,
too. -/
theorem mem_of_infix {m : Char} (hm : m ∈ marks) {term : String} (hterm : m ∈ term.toList)
    {text : List Char} (h : (lowercase term).toList.map compared <:+: text.map compared) :
    m ∈ text := by
  obtain ⟨-, hsmall, hascii, -⟩ := of_mem_marks hm
  have hmem : compared m ∈ (lowercase term).toList.map compared :=
    List.mem_map_of_mem (mem_lowercase hascii hsmall hterm)
  obtain ⟨c, hc, hcompared⟩ := List.mem_map.1 (h.subset hmem)
  exact eq_of_compared_eq hm hcompared ▸ hc

/-! ## Terms that are lowercased as they are compared -/

/-- A capital `A` to `Z` is compared as its small letter. -/
theorem compared_foldChar (c : Char) : compared (foldChar c) = compared c := by
  rcases foldChar_eq_self_or c with hself | ⟨hfirst, hlast, hupper⟩
  · rw [hself]
  · have hletter : ¬((foldChar c).toNat = 0xFFFE ∨ (foldChar c).toNat = 0xFFFF) := by omega
    rw [compared, if_neg hletter, foldChar_foldChar, compared, if_neg (by omega)]

/-- A text that contains a term is found, if the term is lowercased as it is compared. -/
theorem like_of_infix {term : String} (h : '\x00' ∉ term.toList)
    (hfold : lowercase term = foldAscii term) {text : List Char}
    (hcontained : term.toList <:+: upToNul text) : like text (containing term) = true := by
  have hcompared : (lowercase term).toList.map compared = term.toList.map compared := by
    rw [hfold, foldAscii, String.toList_ofList, List.map_map]
    exact List.map_congr_left fun c _ ↦ compared_foldChar c
  rw [like_containing_iff h, hcompared]
  exact hcontained.map compared

end Microblog.Text.Pattern
