import Mathlib.Data.List.Nodup
import Microblog.Proofs.Text.Runs
import Microblog.Text.Hashtag

/-!
# What the hashtags of a text are

A tag stands in a text where a `#`, itself at the start of the text or right after a blank, is
followed by a run of tag characters (`TagAt`).  The scan from left to right finds these places and
no others, in order (`exists_places`), so `hashtags` lists the lowercase forms of the runs in the
order of first appearance, and no other list does (`Listing`).

A tag that was extracted is in lowercase (`IsTag`), and lowercasing leaves such a text alone
(`IsTag.lowercase_eq`).  So the tags of a text, written one after the other, have themselves as
their tags (`hashtags_tagLine`).
-/

set_option autoImplicit false

namespace Microblog.Text

/-! ## Tag characters -/

theorem isAlphanum_iff {c : Char} : c.isAlphanum = true ↔
    48 ≤ c.toNat ∧ c.toNat ≤ 57 ∨ 65 ≤ c.toNat ∧ c.toNat ≤ 90 ∨ 97 ≤ c.toNat ∧ c.toNat ≤ 122 := by
  have hranges : c.isAlphanum = ((decide (65 ≤ c.val ∧ c.val ≤ 90) ||
      decide (97 ≤ c.val) && decide (c.val ≤ 122)) ||
        decide (48 ≤ c.val) && decide (c.val ≤ 57)) := rfl
  simp only [hranges, Bool.or_eq_true, Bool.and_eq_true, decide_eq_true_eq,
    UInt32.le_iff_toNat_le]
  show (65 ≤ c.toNat ∧ c.toNat ≤ 90 ∨ 97 ≤ c.toNat ∧ c.toNat ≤ 122) ∨
    (48 ≤ c.toNat ∧ c.toNat ≤ 57) ↔ _
  omega

theorem isTagChar_iff {c : Char} : isTagChar c = true ↔
    c.isAlphanum = true ∨ c.toNat = 95 ∨ c.toNat = 0x17F ∨ c.toNat = 0x212A := by
  have hunderscore : c = '_' ↔ c.toNat = 95 := by
    rw [← Char.toNat_inj]
    rfl
  simp only [isTagChar, Bool.or_eq_true, beq_iff_eq, hunderscore, or_assoc]

theorem isBlank_of_isTagChar {c : Char} (h : isTagChar c = true) : isBlank c = false := by
  rw [isTagChar_iff, isAlphanum_iff] at h
  rw [isBlank, Bool.eq_false_iff]
  simp only [ne_eq, Bool.or_eq_true, Bool.and_eq_true, decide_eq_true_eq, beq_iff_eq]
  omega

/-- The lowercase form of a tag character: the Kelvin sign is a letter k. -/
def smallTagChar (c : Char) : Char := if c.toNat = 0x212A then 'k' else foldChar c

theorem isTagChar_smallTagChar {c : Char} (h : isTagChar c = true) :
    isTagChar (smallTagChar c) = true := by
  rw [smallTagChar]
  split
  · decide
  · rcases foldChar_eq_self_or c with hself | ⟨hfirst, hlast, -⟩
    · rwa [hself]
    · exact isTagChar_iff.2 (.inl (isAlphanum_iff.2 (by omega)))

theorem smallTagChar_smallTagChar (c : Char) : smallTagChar (smallTagChar c) = smallTagChar c := by
  by_cases hkelvin : c.toNat = 0x212A
  · have hk : smallTagChar c = 'k' := if_pos hkelvin
    rw [hk]
    decide
  · have hfold : smallTagChar c = foldChar c := if_neg hkelvin
    have hne : ¬(foldChar c).toNat = 0x212A := by
      rcases foldChar_eq_self_or c with hself | ⟨-, hlast, -⟩
      · rwa [hself]
      · omega
    rw [hfold, smallTagChar, if_neg hne, foldChar_foldChar]

theorem lowercaseChar_of_isTagChar {c : Char} (h : isTagChar c = true) :
    lowercaseChar c = [smallTagChar c] := by
  by_cases hascii : c.toNat < 0x80
  · rw [lowercaseChar, if_pos hascii, smallTagChar, if_neg (by omega)]
  · -- beyond ASCII there are the long s, which stays, and the Kelvin sign
    rw [isTagChar_iff, isAlphanum_iff] at h
    have hval : c = Char.ofNat 0x17F ∨ c = Char.ofNat 0x212A := by
      rw [← Char.toNat_inj, ← Char.toNat_inj]
      show c.toNat = 0x17F ∨ c.toNat = 0x212A
      omega
    rcases hval with rfl | rfl <;> decide

/-- Tag characters are lowercased one by one. -/
theorem lowercaseFrom_of_isTagChar {cs : List Char} (h : ∀ c ∈ cs, isTagChar c = true)
    (before : List Char) : lowercaseFrom before cs = cs.map smallTagChar := by
  induction cs generalizing before with
  | nil => rfl
  | cons c cs ih =>
    have hc := h c List.mem_cons_self
    have hsigma : ¬(c.toNat == 0x3A3) = true := by
      rw [isTagChar_iff, isAlphanum_iff] at hc
      rw [beq_iff_eq]
      omega
    rw [lowercaseFrom, if_neg hsigma, lowercaseChar_of_isTagChar hc,
      ih (fun d hd ↦ h d (List.mem_cons_of_mem c hd)), List.map_cons, List.singleton_append]

/-! ## Tags in lowercase -/

/-- The text is a tag as it is kept: tag characters in lowercase, and at least one. -/
structure IsTag (tag : String) : Prop where
  ne_empty : tag ≠ ""
  inside : ∀ c ∈ tag.toList, isTagChar c = true
  small : ∀ c ∈ tag.toList, smallTagChar c = c

theorem IsTag.lowercase_eq {tag : String} (h : IsTag tag) : lowercase tag = tag := by
  have hsmall : tag.toList.map smallTagChar = tag.toList :=
    (List.map_congr_left h.small).trans (List.map_id' _)
  rw [lowercase, lowercaseFrom_of_isTagChar h.inside, hsmall, String.ofList_toList]

/-- A run of tag characters is a tag in lowercase. -/
theorem isTag_lowercase {run : List Char} (hne : run ≠ []) (h : ∀ c ∈ run, isTagChar c = true) :
    IsTag (lowercase (.ofList run)) := by
  have hlist : (lowercase (.ofList run)).toList = run.map smallTagChar := by
    rw [lowercase, String.toList_ofList, String.toList_ofList, lowercaseFrom_of_isTagChar h]
  refine ⟨fun hempty ↦ ?_, fun c hc ↦ ?_, fun c hc ↦ ?_⟩
  · rw [hempty] at hlist
    exact hne (List.map_eq_nil_iff.1 hlist.symm)
  · rw [hlist] at hc
    obtain ⟨d, hd, rfl⟩ := List.mem_map.1 hc
    exact isTagChar_smallTagChar (h d hd)
  · rw [hlist] at hc
    obtain ⟨d, -, rfl⟩ := List.mem_map.1 hc
    exact smallTagChar_smallTagChar d

/-! ## Where the tags stand -/

/-- In `cs` the run of tag characters `run` follows a `#` at position `i`, which stands at the start
or right after a blank.  `edge` says whether the start of `cs` counts as one. -/
def TagFrom (edge : Bool) (cs : List Char) (i : Nat) (run : List Char) : Prop :=
  ∃ before after, cs = before ++ '#' :: (run ++ after) ∧ before.length = i ∧
    (before = [] → edge = true) ∧ (∀ c, before.getLast? = some c → isBlank c = true) ∧
    IsRun isTagChar (before ++ ['#']) run after

theorem not_tagFrom_nil {edge : Bool} {i : Nat} {run : List Char} : ¬TagFrom edge [] i run := by
  rintro ⟨before, after, h, -⟩
  cases before <;> cases h

theorem tagFrom_cons_zero {edge : Bool} {c : Char} {cs run : List Char} :
    TagFrom edge (c :: cs) 0 run ↔
      edge = true ∧ c = '#' ∧ cs.takeWhile isTagChar ≠ [] ∧ cs.takeWhile isTagChar = run := by
  constructor
  · rintro ⟨before, after, heq, hlength, hedge, -, hrun⟩
    obtain rfl := List.length_eq_zero_iff.1 hlength
    obtain ⟨rfl, rfl⟩ := List.cons.inj heq
    rw [hrun.takeWhile_eq]
    exact ⟨hedge rfl, rfl, hrun.ne_nil, rfl⟩
  · rintro ⟨rfl, rfl, hne, rfl⟩
    refine ⟨[], cs.dropWhile isTagChar, ?_, rfl, fun _ ↦ rfl, by simp, isRun_takeWhile hne ?_⟩
    · rw [List.takeWhile_append_dropWhile, List.nil_append]
    · simp only [List.nil_append, List.getLast?_singleton, Option.some.injEq]
      rintro c rfl
      decide

/-- What stands before the `#` does not matter for the run after it. -/
theorem IsRun.after_hash {before run after : List Char}
    (h : IsRun isTagChar (before ++ ['#']) run after) (start : List Char) :
    IsRun isTagChar (start ++ ['#']) run after where
  ne_nil := h.ne_nil
  inside := h.inside
  left := left_of_cons (by decide) (by simp) start
  right := h.right

theorem tagFrom_cons_succ {edge : Bool} {c : Char} {cs run : List Char} {i : Nat} :
    TagFrom edge (c :: cs) (i + 1) run ↔ TagFrom (isBlank c) cs i run := by
  constructor
  · rintro ⟨before, after, heq, hlength, -, hblank, hrun⟩
    cases before with
    | nil => cases hlength
    | cons d before =>
      obtain ⟨rfl, rfl⟩ := List.cons.inj heq
      refine ⟨before, after, rfl, Nat.succ.inj hlength, ?_, ?_, hrun.after_hash before⟩
      · rintro rfl
        exact hblank c rfl
      · intro e he
        exact hblank e (by rw [List.getLast?_cons, he, Option.getD_some])
  · rintro ⟨before, after, rfl, rfl, hedge, hblank, hrun⟩
    refine ⟨c :: before, after, rfl, rfl, (absurd · (List.cons_ne_nil _ _)), ?_,
      hrun.after_hash (c :: before)⟩
    intro e he
    rw [List.getLast?_cons] at he
    cases hlast : before.getLast? with
    | none =>
      obtain rfl : c = e := by simpa [hlast] using he
      exact hedge (List.getLast?_eq_none_iff.1 hlast)
    | some d =>
      obtain rfl : d = e := by simpa [hlast] using he
      exact hblank d hlast

/-- Right after a `#` no tag starts, so the scan goes on the same whether it found one or not. -/
theorem tagRuns_cons (edge : Bool) (c : Char) (cs : List Char) :
    tagRuns edge (c :: cs) =
      (if edge = true ∧ c = '#' ∧ cs.takeWhile isTagChar ≠ [] then [cs.takeWhile isTagChar]
        else []) ++ tagRuns (isBlank c) cs := by
  have hcond : (edge && c == '#' && (cs.takeWhile isTagChar).length != 0) = true ↔
      edge = true ∧ c = '#' ∧ cs.takeWhile isTagChar ≠ [] := by
    simp [and_assoc]
  rw [tagRuns]
  by_cases h : edge = true ∧ c = '#' ∧ cs.takeWhile isTagChar ≠ []
  · have hblank : isBlank c = false := by
      rw [h.2.1]
      decide
    rw [if_pos h, if_pos (hcond.2 h), hblank, List.singleton_append]
  · rw [if_neg h, if_neg (mt hcond.1 h), List.nil_append]

/-- **The scan finds the places of the tags**, each with its run, from the left to the right. -/
theorem exists_places (edge : Bool) (cs : List Char) :
    ∃ places : List (Nat × List Char), places.map Prod.snd = tagRuns edge cs ∧
      places.Pairwise (·.1 < ·.1) ∧ ∀ i run, (i, run) ∈ places ↔ TagFrom edge cs i run := by
  induction cs generalizing edge with
  | nil => exact ⟨[], rfl, .nil, fun i run ↦ iff_of_false List.not_mem_nil not_tagFrom_nil⟩
  | cons c cs ih =>
    obtain ⟨places, hruns, hascending, hplaces⟩ := ih (isBlank c)
    -- the places of the rest lie one further on; before them there is at most the first place
    let later := places.map fun place ↦ (place.1 + 1, place.2)
    have hlater : ∀ i run, (i + 1, run) ∈ later ↔ (i, run) ∈ places := fun i run ↦ by
      simp [later]
    have hpositive : ∀ place ∈ later, 0 < place.1 := fun place hplace ↦ by
      obtain ⟨earlier, -, rfl⟩ := List.mem_map.1 hplace
      exact Nat.succ_pos _
    have hsorted : later.Pairwise (·.1 < ·.1) :=
      List.pairwise_map.2 (hascending.imp fun h ↦ Nat.add_lt_add_right h 1)
    have hsnd : later.map Prod.snd = tagRuns (isBlank c) cs := by
      rw [← hruns, List.map_map]
      rfl
    by_cases hfirst : edge = true ∧ c = '#' ∧ cs.takeWhile isTagChar ≠ []
    · refine ⟨(0, cs.takeWhile isTagChar) :: later, ?_, ?_, fun i run ↦ ?_⟩
      · rw [tagRuns_cons, if_pos hfirst, List.map_cons, hsnd, List.singleton_append]
      · exact List.pairwise_cons.2 ⟨hpositive, hsorted⟩
      · cases i with
        | zero =>
          have hnot : (0, run) ∉ later := fun h ↦ (hpositive _ h).false
          simp [tagFrom_cons_zero, hfirst, hnot, eq_comm]
        | succ i => simp [tagFrom_cons_succ, hlater, hplaces]
    · refine ⟨later, ?_, hsorted, fun i run ↦ ?_⟩
      · rw [tagRuns_cons, if_neg hfirst, hsnd, List.nil_append]
      · cases i with
        | zero =>
          have hnot : (0, run) ∉ later := fun h ↦ (hpositive _ h).false
          refine iff_of_false hnot fun h ↦ hfirst ?_
          obtain ⟨hedge, hhash, hne, -⟩ := tagFrom_cons_zero.1 h
          exact ⟨hedge, hhash, hne⟩
        | succ i => rw [tagFrom_cons_succ, hlater, hplaces]

/-! ## The tags of a text -/

/-- The run of tag characters `run` follows a `#` at position `i`, and the `#` stands at the start
of the text or right after a blank. -/
def TagAt (cs : List Char) (i : Nat) (run : List Char) : Prop :=
  ∃ before after, cs = before ++ '#' :: (run ++ after) ∧ before.length = i ∧
    (∀ c, before.getLast? = some c → isBlank c = true) ∧ IsRun isTagChar (before ++ ['#']) run after

theorem tagFrom_true {cs run : List Char} {i : Nat} : TagFrom true cs i run ↔ TagAt cs i run := by
  simp [TagFrom, TagAt]

/-- The text has the tag at position `i`, in letters of either case. -/
def Appears (s : String) (i : Nat) (tag : String) : Prop :=
  ∃ run, TagAt s.toList i run ∧ lowercase (.ofList run) = tag

/-- The tag `a` appears in the text, and before the tag `b` does. -/
def AppearsBefore (s : String) (a b : String) : Prop :=
  ∃ i, Appears s i a ∧ ∀ j, Appears s j b → i < j

/-- The list holds the tags that appear in the text, each once, in the order of first
appearance. -/
structure Listing (s : String) (tags : List String) : Prop where
  mem_iff : ∀ tag, tag ∈ tags ↔ ∃ i, Appears s i tag
  nodup : tags.Nodup
  ordered : tags.Pairwise (AppearsBefore s)

/-- Repetitions go, and what is left stays in the order of the first places. -/
theorem pairwise_eraseDups {places : List (Nat × String)} (h : places.Pairwise (·.1 < ·.1)) :
    (places.map Prod.snd).eraseDups.Pairwise fun a b ↦
      ∃ i, (i, a) ∈ places ∧ ∀ j, (j, b) ∈ places → i < j := by
  -- induction on the length: the tag of the first place goes from the rest
  induction hn : places.length using Nat.strong_induction_on generalizing places with
  | h n ih =>
    cases places with
    | nil => exact .nil
    | cons place rest =>
      obtain ⟨i, a⟩ := place
      obtain ⟨hfirst, hrest⟩ := List.pairwise_cons.1 h
      have hkept : (rest.map Prod.snd).filter (fun b ↦ !b == a) =
          (rest.filter fun place ↦ !place.2 == a).map Prod.snd := List.filter_map
      have hlt : (rest.filter fun place ↦ !place.2 == a).length < n := by
        rw [← hn]
        exact Nat.lt_succ_of_le (List.length_filter_le _ _)
      have hlater := ih _ hlt (hrest.sublist List.filter_sublist) rfl
      rw [List.map_cons, List.eraseDups_cons, hkept, List.pairwise_cons]
      constructor
      · intro b hb
        obtain ⟨⟨k, b⟩, hmem, rfl⟩ := List.mem_map.1 (List.mem_eraseDups.1 hb)
        have hne : b ≠ a := by simpa using (List.mem_filter.1 hmem).2
        refine ⟨i, List.mem_cons_self, fun j hj ↦ ?_⟩
        rcases List.mem_cons.1 hj with heq | hj
        · exact absurd (Prod.mk.inj heq).2 hne
        · exact hfirst _ hj
      · refine hlater.imp_of_mem fun {b c} _ hc hbefore ↦ ?_
        obtain ⟨⟨k, c⟩, hmem, rfl⟩ := List.mem_map.1 (List.mem_eraseDups.1 hc)
        have hne : c ≠ a := by simpa using (List.mem_filter.1 hmem).2
        obtain ⟨j, hj, hj'⟩ := hbefore
        refine ⟨j, List.mem_cons_of_mem _ (List.mem_filter.1 hj).1, fun l hl ↦ ?_⟩
        rcases List.mem_cons.1 hl with heq | hl
        · exact absurd (Prod.mk.inj heq).2 hne
        · exact hj' l (List.mem_filter.2 ⟨hl, by simpa using hne⟩)

theorem not_appearsBefore_self {s tag : String} : ¬AppearsBefore s tag tag := by
  rintro ⟨i, hi, hfirst⟩
  exact (hfirst i hi).false

theorem listing_hashtags (s : String) : Listing s (hashtags s) := by
  obtain ⟨places, hruns, hascending, hplaces⟩ := exists_places true s.toList
  -- each place with the tag that is made of its run
  let tagged := places.map fun place ↦ (place.1, lowercase (.ofList place.2))
  have htags : hashtags s = (tagged.map Prod.snd).eraseDups := by
    rw [hashtags, ← hruns, List.map_map, List.map_map]
    rfl
  have happears : ∀ i tag, (i, tag) ∈ tagged ↔ Appears s i tag := by
    intro i tag
    simp only [tagged, List.mem_map, Prod.mk.injEq, Appears, ← tagFrom_true, ← hplaces]
    constructor
    · rintro ⟨⟨j, run⟩, hmem, rfl, rfl⟩
      exact ⟨run, hmem, rfl⟩
    · rintro ⟨run, hmem, rfl⟩
      exact ⟨(i, run), hmem, rfl, rfl⟩
  have hordered : (hashtags s).Pairwise (AppearsBefore s) := by
    have hsorted : tagged.Pairwise (·.1 < ·.1) := List.pairwise_map.2 hascending
    have hfirst := pairwise_eraseDups hsorted
    simp only [happears] at hfirst
    rw [htags]
    exact hfirst
  refine ⟨fun tag ↦ ?_, ?_, hordered⟩
  · simp only [htags, List.mem_eraseDups, List.mem_map, ← happears]
    exact ⟨fun ⟨⟨i, _⟩, hmem, heq⟩ ↦ ⟨i, heq ▸ hmem⟩, fun ⟨i, hmem⟩ ↦ ⟨(i, tag), hmem, rfl⟩⟩
  · refine hordered.imp fun {a b} hbefore hab ↦ ?_
    subst hab
    exact not_appearsBefore_self hbefore

/-- There is but one list of the tags of a text. -/
theorem Listing.eq {s : String} {tags tags' : List String} (h : Listing s tags)
    (h' : Listing s tags') : tags = tags' := by
  have hperm : tags.Perm tags' :=
    (List.perm_ext_iff_of_nodup h.nodup h'.nodup).2 fun tag ↦ by rw [h.mem_iff, h'.mem_iff]
  refine hperm.eq_of_pairwise (fun a b _ _ hab hba ↦ ?_) h.ordered h'.ordered
  obtain ⟨i, hi, hij⟩ := hab
  obtain ⟨j, hj, hji⟩ := hba
  exact absurd (hij j hj) (Nat.lt_asymm (hji i hi))

theorem isTag_of_mem_hashtags {s tag : String} (h : tag ∈ hashtags s) : IsTag tag := by
  obtain ⟨i, run, ⟨before, after, -, -, -, hrun⟩, rfl⟩ := ((listing_hashtags s).mem_iff tag).1 h
  exact isTag_lowercase hrun.ne_nil hrun.inside

/-! ## Tags written one after the other -/

/-- The tags as a text: each after a `#`, with a space between them. -/
def tagLine (tags : List String) : String := " ".intercalate (tags.map ("#" ++ ·))

theorem tagRuns_append {run : List Char} (h : ∀ c ∈ run, isTagChar c = true) (rest : List Char) :
    tagRuns false (run ++ rest) = tagRuns false rest := by
  induction run with
  | nil => rfl
  | cons c run ih =>
    have hblank := isBlank_of_isTagChar (h c List.mem_cons_self)
    rw [List.cons_append, tagRuns_cons, if_neg (by simp), hblank, List.nil_append,
      ih fun d hd ↦ h d (List.mem_cons_of_mem c hd)]

/-- A tag at the start of a text is found, and then the scan goes on behind it. -/
theorem tagRuns_tag_append {run rest : List Char} (hne : run ≠ [])
    (h : ∀ c ∈ run, isTagChar c = true) (hrest : ∀ c, rest.head? = some c → isTagChar c = false) :
    tagRuns true ('#' :: (run ++ rest)) = run :: tagRuns false rest := by
  have hrun := takeWhile_append_of_boundary h hrest
  have hhash : isBlank '#' = false := by decide
  rw [tagRuns_cons, hrun, if_pos ⟨rfl, rfl, hne⟩, hhash, tagRuns_append h, List.singleton_append]

theorem toList_tagLine_cons (tag : String) (tags : List String) :
    (tagLine (tag :: tags)).toList =
      '#' :: (tag.toList ++ if tags = [] then [] else ' ' :: (tagLine tags).toList) := by
  cases tags with
  | nil => simp [tagLine]
  | cons next tags => simp [tagLine, String.toList_intercalate]

theorem tagRuns_tagLine {tags : List String} (h : ∀ tag ∈ tags, IsTag tag) :
    tagRuns true (tagLine tags).toList = tags.map String.toList := by
  induction tags with
  | nil => rfl
  | cons tag tags ih =>
    have htag := h tag List.mem_cons_self
    have hne : tag.toList ≠ [] := fun hnil ↦ htag.ne_empty (by simpa using hnil)
    have hlater := ih fun tag ht ↦ h tag (List.mem_cons_of_mem _ ht)
    rw [toList_tagLine_cons, List.map_cons, tagRuns_tag_append hne htag.inside, List.cons.injEq]
    · refine ⟨rfl, ?_⟩
      split
      · subst tags
        rfl
      · -- the space between two tags is a blank, after which a tag may start
        have hblank : isBlank ' ' = true := by decide
        rw [tagRuns_cons, hblank, hlater, if_neg (by simp), List.nil_append]
    · intro c hc
      split at hc
      · cases hc
      · obtain rfl : ' ' = c := by simpa using hc
        decide

theorem eraseDups_of_nodup {tags : List String} (h : tags.Nodup) : tags.eraseDups = tags := by
  induction tags with
  | nil => rfl
  | cons tag tags ih =>
    obtain ⟨hnew, hrest⟩ := List.nodup_cons.1 h
    have hkept : tags.filter (fun b ↦ !b == tag) = tags := by
      refine List.filter_eq_self.2 fun b hb ↦ ?_
      have hne : b ≠ tag := fun heq ↦ hnew (heq ▸ hb)
      simpa using hne
    rw [List.eraseDups_cons, hkept, ih hrest]

/-- **The tags of a text, written one after the other, have themselves as their tags.** -/
theorem hashtags_tagLine {tags : List String} (h : ∀ tag ∈ tags, IsTag tag) (hnodup : tags.Nodup) :
    hashtags (tagLine tags) = tags := by
  have hsame : (tags.map String.toList).map (fun run ↦ lowercase (.ofList run)) = tags := by
    rw [List.map_map]
    refine (List.map_congr_left fun tag htag ↦ ?_).trans (List.map_id' _)
    rw [Function.comp_apply, String.ofList_toList, (h tag htag).lowercase_eq]
  rw [hashtags, tagRuns_tagLine h, hsame, eraseDups_of_nodup hnodup]

/-! ## The main result -/

/-- **Hashtags are extracted exactly.**  The hashtags of a text are the one list of the tags that
appear in it, in lowercase, each once and in the order of first appearance.  None of them is empty,
lowercasing leaves each as it is, and the text `#t₁ #t₂ …` that is made of them has the same
hashtags. -/
theorem hashtags_exact (s : String) :
    (∀ tags, Listing s tags ↔ hashtags s = tags) ∧
      (∀ tag ∈ hashtags s, tag ≠ "" ∧ lowercase tag = tag) ∧
      hashtags (tagLine (hashtags s)) = hashtags s := by
  refine ⟨fun tags ↦ ⟨(listing_hashtags s).eq, fun h ↦ h ▸ listing_hashtags s⟩, ?_, ?_⟩
  · intro tag htag
    have h := isTag_of_mem_hashtags htag
    exact ⟨h.ne_empty, h.lowercase_eq⟩
  · exact hashtags_tagLine (fun _ ↦ isTag_of_mem_hashtags) (listing_hashtags s).nodup

end Microblog.Text
