import Microblog.Proofs.Text.TagStart

/-!
# A term stands for itself

Whatever its characters mean in a pattern, the pattern of a term matches the texts that contain the
lowercased term, and without its first character those that begin with it
(`Pattern.like_literal`).  Of the text the letters `A` to `Z` count as small.

There is one exception, and it is none of the characters with a meaning: the store reads U+FFFE and
U+FFFF as the replacement character, so that it does not tell these three apart
(`Pattern.not_literal_of_misread`).  Without these two a term and a text are held against each other
character by character.

`Pattern.compared` does both at once, the folding of letters and the reading.  A lowercased term has
no letter left that could be folded, so that only the reading is left of it there.
-/

set_option autoImplicit false

namespace Microblog.Text

namespace Pattern

/-! ## Characters as they are read -/

/-- A character that the store reads as another one. -/
def Misread (c : Char) : Prop := c.toNat = 0xFFFE ∨ c.toNat = 0xFFFF

instance (c : Char) : Decidable (Misread c) := inferInstanceAs (Decidable (_ ∨ _))

/-- A character as the store reads it. -/
def asRead (c : Char) : Char := if Misread c then Char.ofNat 0xFFFD else c

theorem not_misread_foldChar {c : Char} (hc : ¬Misread c) : ¬Misread (foldChar c) := by
  rcases foldChar_eq_self_or c with hself | ⟨-, hlast, -⟩
  · rwa [hself]
  · rw [Misread]
    omega

/-- To be compared, a character is read and, if it is one of `A` to `Z`, made small. -/
theorem compared_eq_asRead (c : Char) : compared c = asRead (foldChar c) := by
  by_cases hread : Misread c
  · have hself : foldChar c = c := by
      refine (foldChar_eq_self_or c).resolve_right ?_
      rw [Misread] at hread
      omega
    rw [hself, compared, asRead, if_pos hread]
    exact if_pos hread
  · rw [asRead, if_neg (not_misread_foldChar hread)]
    exact if_neg hread

theorem map_asRead_eq_self {cs : List Char} (h : ∀ c ∈ cs, ¬Misread c) : cs.map asRead = cs :=
  (List.map_congr_left fun c hc ↦ if_neg (h c hc)).trans (List.map_id' cs)

theorem map_compared_eq (s : String) :
    s.toList.map compared = (foldAscii s).toList.map asRead := by
  rw [foldAscii, String.toList_ofList, List.map_map]
  exact List.map_congr_left fun c _ ↦ compared_eq_asRead c

theorem map_compared_lowercase (s : String) :
    (lowercase s).toList.map compared = (lowercase s).toList.map asRead := by
  refine List.map_congr_left fun c hc ↦ ?_
  rw [lowercase, String.toList_ofList] at hc
  rw [compared_eq_asRead, (isLowercase_of_mem_lowercaseFrom hc).foldChar_eq]

/-! ## Lowercase text as it is read -/

/-- A run of the case table leads to no character that is read as another one. -/
def RunReads (r : Nat × Nat × Nat × Int) : Prop :=
  r.2.1 + r.2.2.2 < 0xFFFE ∨ 0xFFFF < r.1 + r.2.2.2

instance (r : Nat × Nat × Nat × Int) : Decidable (RunReads r) := inferInstanceAs (Decidable (_ ∨ _))

theorem runReads_lowercaseRuns : ∀ r ∈ lowercaseRuns, RunReads r := by decide +kernel

theorem not_misread_lowercaseByRuns {c : Char} (hc : ¬Misread c) :
    ¬Misread (lowercaseByRuns c.toNat lowercaseRuns) := by
  rcases lowercaseByRuns_cases runLeads_lowercaseRuns with ⟨-, hself⟩ | ⟨r, hr, hin, hval⟩
  · rwa [hself]
  · obtain ⟨hfirst, hlast, -⟩ := hin
    have hreads := runReads_lowercaseRuns r hr
    rw [RunReads] at hreads
    rw [Misread]
    omega

theorem not_misread_of_mem_lowercaseChar {c d : Char} (hc : ¬Misread c) (hd : d ∈ lowercaseChar c) :
    ¬Misread d := by
  rw [lowercaseChar] at hd
  split at hd
  · obtain rfl := List.mem_singleton.1 hd
    exact not_misread_foldChar hc
  · split at hd
    · rcases List.mem_pair.1 hd with rfl | rfl <;> decide
    · obtain rfl := List.mem_singleton.1 hd
      exact not_misread_lowercaseByRuns hc

/-- Lowercasing brings in no character that is read as another one. -/
theorem not_misread_of_mem_lowercaseFrom {before cs : List Char} (h : ∀ c ∈ cs, ¬Misread c)
    {d : Char} (hd : d ∈ lowercaseFrom before cs) : ¬Misread d := by
  rcases of_mem_lowercaseFrom hd with (rfl | rfl) | ⟨c, hc, -, hchar⟩
  · decide
  · decide
  · exact not_misread_of_mem_lowercaseChar (h c hc) hchar

theorem map_asRead_lowercase {s : String} (h : ∀ c ∈ s.toList, ¬Misread c) :
    (lowercase s).toList.map asRead = (lowercase s).toList := by
  refine map_asRead_eq_self fun c hc ↦ ?_
  rw [lowercase, String.toList_ofList] at hc
  exact not_misread_of_mem_lowercaseFrom h hc

theorem map_asRead_foldAscii {s : String} (h : ∀ c ∈ s.toList, ¬Misread c) :
    (foldAscii s).toList.map asRead = (foldAscii s).toList := by
  refine map_asRead_eq_self fun c hc ↦ ?_
  rw [foldAscii, String.toList_ofList] at hc
  obtain ⟨d, hd, rfl⟩ := List.mem_map.1 hc
  exact not_misread_foldChar (h d hd)

/-! ## What the pattern of a term matches -/

/-- **The pattern of a term matches the texts that contain the lowercased term**, and without its
first character those that begin with it: the letters `A` to `Z` of the text count as small, and of
all other characters U+FFFE and U+FFFF alone do not stand for themselves. -/
theorem like_literal {term text : String} (hterm : '\x00' ∉ term.toList)
    (htext : '\x00' ∉ text.toList) :
    ((like text.toList (containing term) = true ↔
        (lowercase term).toList.map asRead <:+: (foldAscii text).toList.map asRead) ∧
      (like text.toList (containing term).tail = true ↔
        (lowercase term).toList.map asRead <+: (foldAscii text).toList.map asRead)) ∧
    ((∀ c ∈ term.toList, ¬Misread c) → (∀ c ∈ text.toList, ¬Misread c) →
      (like text.toList (containing term) = true ↔
        (lowercase term).toList <:+: (foldAscii text).toList) ∧
      (like text.toList (containing term).tail = true ↔
        (lowercase term).toList <+: (foldAscii text).toList)) := by
  have hcontains : like text.toList (containing term) = true ↔
      (lowercase term).toList.map asRead <:+: (foldAscii text).toList.map asRead := by
    rw [like_containing_iff hterm, upToNul_eq_self htext, map_compared_lowercase, map_compared_eq]
  have hstarts : like text.toList (containing term).tail = true ↔
      (lowercase term).toList.map asRead <+: (foldAscii text).toList.map asRead := by
    rw [containing, List.tail_cons, like_startingWith_iff hterm, upToNul_eq_self htext,
      map_compared_lowercase, map_compared_eq]
  refine ⟨⟨hcontains, hstarts⟩, fun hterm htext ↦ ?_⟩
  rw [hcontains, hstarts, map_asRead_lowercase hterm, map_asRead_foldAscii htext]
  exact ⟨Iff.rfl, Iff.rfl⟩

/-- A percent sign, an underscore and a backslash in a term are looked for as they are. -/
theorem like_literal_marks : '\x00' ∉ "50%_\\".toList ∧
    like "NOW 50%_\\ OFF".toList (containing "50%_\\") = true ∧
    like "NOW 50 XY OFF".toList (containing "50%_\\") = false ∧
    like "50%_\\ OFF".toList (containing "50%_\\").tail = true := by
  have hterm : '\x00' ∉ "50%_\\".toList := by decide
  refine ⟨hterm, ?_, ?_, ?_⟩
  · exact (like_literal hterm (by decide)).1.1.2 (by decide +kernel)
  · rw [Bool.eq_false_iff, ne_eq, (like_literal hterm (by decide)).1.1]
    decide +kernel
  · exact (like_literal hterm (by decide)).1.2.2 (by decide +kernel)

/-- A text can match the pattern of a term that it does not contain: the store takes one of the two
characters for the other. -/
theorem not_literal_of_misread : ¬∀ term text : String, '\x00' ∉ term.toList →
    '\x00' ∉ text.toList → (like text.toList (containing term) = true ↔
      (lowercase term).toList <:+: (foldAscii text).toList) := by
  intro h
  have hmatch : like "\uFFFE".toList (containing "\uFFFD") = true := by decide +kernel
  have hcontained := (h "\uFFFD" "\uFFFE" (by decide) (by decide)).1 hmatch
  exact absurd hcontained (by decide +kernel)

end Pattern

end Microblog.Text
