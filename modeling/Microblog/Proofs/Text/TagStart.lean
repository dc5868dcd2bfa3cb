import Mathlib.Data.String.Basic
import Microblog.Proofs.Text.Hashtag
import Microblog.Proofs.Text.Pattern

/-!
# What the start of a hashtag matches

Hashtags are held against the pattern of a start.  What matches it are the tags that begin with the
start in lowercase, letter by letter (`Pattern.like_tag_iff`); neither the folding of letters nor a
character with a meaning makes a difference there.  A tag is in lowercase, so that it is compared as
it is, and so is any text in lowercase that is compared as a part of a tag.

The store accepts the pattern if it is not too long, and that can be told from the start: there is
one byte more for each character with a meaning, and one for the end (`Pattern.fits_startingWith`).
-/

set_option autoImplicit false

namespace Microblog.Text

/-- A tag character is in lowercase if it is kept as it is. -/
theorem isLowercase_of_isTagChar {c : Char} (h : isTagChar c = true) (hsmall : smallTagChar c = c) :
    IsLowercase c := by
  refine ⟨?_, ?_⟩
  · rw [isTagChar_iff, isAlphanum_iff] at h
    omega
  · rw [lowercaseChar_of_isTagChar h, hsmall]

namespace Pattern

/-- A text matches the pattern of a start just if it begins with it, lowercased and as characters
are compared. -/
theorem like_startingWith_iff {start : String} (h : '\x00' ∉ start.toList) {text : List Char} :
    like text (startingWith start) = true ↔
      (lowercase start).toList.map compared <+: (upToNul text).map compared := by
  have hpattern : upToNul (startingWith start) = startingWith start := by
    refine upToNul_eq_self ?_
    have hescape := not_mem_escape (by decide) (nul_not_mem_lowercase h)
    simp [startingWith, hescape]
  have hitems : items? (startingWith start) =
      some ((lowercase start).toList.map Item.char ++ [.any]) := by
    rw [startingWith, items?_escape_append]
    rfl
  rw [like, hpattern, hitems]
  exact matchItems_chars_iff

/-! ## Tags as they are compared -/

/-- A character in lowercase that is a tag character, or is compared as one, is compared as it is.
-/
theorem compared_eq_self {c : Char} (h : IsLowercase c)
    (htag : isTagChar c = true ∨ isTagChar (compared c) = true) : compared c = c := by
  by_cases hnone : c.toNat = 0xFFFE ∨ c.toNat = 0xFFFF
  · rw [compared, if_pos hnone, isTagChar_iff, isAlphanum_iff] at htag
    refine absurd htag (not_or.2 ⟨by omega, by decide⟩)
  · rw [compared, if_neg hnone, h.foldChar_eq]

theorem map_compared_eq_self {cs : List Char} (h : ∀ c ∈ cs, IsLowercase c)
    (htag : ∀ c ∈ cs, isTagChar c = true ∨ isTagChar (compared c) = true) :
    cs.map compared = cs :=
  (List.map_congr_left fun c hc ↦ compared_eq_self (h c hc) (htag c hc)).trans (List.map_id' cs)

/-- **The pattern of a start matches the tags that begin with it**, in lowercase and whatever its
characters mean in a pattern. -/
theorem like_tag_iff {start name : String} (hnul : '\x00' ∉ start.toList) (hname : IsTag name) :
    like name.toList (startingWith start) = true ↔
      (lowercase start).toList <+: name.toList := by
  have hplain : '\x00' ∉ name.toList := fun hmem ↦
    absurd (hname.inside _ hmem) (by decide)
  have htag : name.toList.map compared = name.toList :=
    map_compared_eq_self
      (fun c hc ↦ isLowercase_of_isTagChar (hname.inside c hc) (hname.small c hc))
      fun c hc ↦ .inl (hname.inside c hc)
  have hstart : ∀ c ∈ (lowercase start).toList, IsLowercase c := fun c hc ↦ by
    rw [lowercase, String.toList_ofList] at hc
    exact isLowercase_of_mem_lowercaseFrom hc
  rw [like_startingWith_iff hnul, upToNul_eq_self hplain, htag]
  -- on either side the start consists of tag characters
  constructor
  · intro h
    have hself := map_compared_eq_self hstart fun c hc ↦
      .inr (hname.inside _ (h.subset (List.mem_map_of_mem hc)))
    rwa [hself] at h
  · intro h
    have hself := map_compared_eq_self hstart fun c hc ↦ .inl (hname.inside _ (h.subset hc))
    rwa [hself]

/-! ## The length of a pattern -/

theorem utf8Len_escape (cs : List Char) :
    String.utf8Len (escape cs) = String.utf8Len cs + cs.countP (· ∈ marks) := by
  induction cs with
  | nil => rfl
  | cons c cs ih =>
    have hmark : c ∈ marks ↔ c = '%' ∨ c = '_' ∨ c = '\\' := by simp [marks]
    have hsize : ('\\').utf8Size = 1 := rfl
    rw [escape, List.countP_cons, decide_eq_decide.2 hmark]
    split
    · rename_i hc
      rw [String.utf8Len_cons, String.utf8Len_cons, String.utf8Len_cons, ih, hsize,
        if_pos (decide_eq_true hc)]
      omega
    · rename_i hc
      rw [String.utf8Len_cons, String.utf8Len_cons, ih, if_neg (by simpa using hc)]
      omega

/-- **The pattern of a start in lowercase** is one byte longer than the start, and one more for each
character with a meaning. -/
theorem fits_startingWith {start : String} (h : lowercase start = start) :
    fits (startingWith start) = true ↔
      start.utf8ByteSize + start.toList.countP (· ∈ marks) + 1 ≤ 50000 := by
  have hsize : String.utf8Len ['%'] = 1 := rfl
  rw [fits, decide_eq_true_iff, String.utf8ByteSize_ofList, startingWith, String.utf8Len_append,
    utf8Len_escape, h, String.utf8Len_toList, hsize]
  rfl

end Pattern

end Microblog.Text
