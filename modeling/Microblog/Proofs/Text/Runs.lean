import Mathlib.Data.List.TakeWhile
import Microblog.Proofs.Text.Lowercase
import Microblog.Text.Words

/-!
# Maximal runs of characters

A text is read in runs: a hashtag is a run of tag characters, a search word a run of letters and
digits.  `IsRun p before run after` says that `run` is such a run where it stands, between `before`
and `after`.  It is what `takeWhile` cuts off (`IsRun.takeWhile_eq`) and what is left between the
separators (`mem_splitOnP_iff`), so the words of a query are its maximal runs of letters and digits
(`mem_words_iff`).
-/

set_option autoImplicit false

namespace Microblog.Text

/-- `run` is a run of characters with `p` that goes as far as it can, where it stands between
`before` and `after`. -/
structure IsRun (p : Char → Bool) (before run after : List Char) : Prop where
  /-- There is something in the run. -/
  ne_nil : run ≠ []
  /-- All of the run has `p`. -/
  inside : ∀ c ∈ run, p c = true
  /-- The character before it does not. -/
  left : ∀ c, before.getLast? = some c → p c = false
  /-- Nor does the one after it. -/
  right : ∀ c, after.head? = some c → p c = false

theorem takeWhile_append_of_boundary {p : Char → Bool} {run after : List Char}
    (inside : ∀ c ∈ run, p c = true) (right : ∀ c, after.head? = some c → p c = false) :
    (run ++ after).takeWhile p = run := by
  rw [List.takeWhile_append_of_pos inside]
  cases after with
  | nil => rw [List.takeWhile_nil, List.append_nil]
  | cons c cs => rw [List.takeWhile_cons_of_neg (by simp [right c rfl]), List.append_nil]

theorem IsRun.takeWhile_eq {p : Char → Bool} {before run after : List Char}
    (h : IsRun p before run after) : (run ++ after).takeWhile p = run :=
  takeWhile_append_of_boundary h.inside h.right

/-- What stands at the start of a text is a run, if anything does. -/
theorem isRun_takeWhile {p : Char → Bool} {before cs : List Char} (hne : cs.takeWhile p ≠ [])
    (hleft : ∀ c, before.getLast? = some c → p c = false) :
    IsRun p before (cs.takeWhile p) (cs.dropWhile p) where
  ne_nil := hne
  inside _ hc := List.mem_takeWhile_imp hc
  left := hleft
  right _ hc := by
    have hdrop := List.head?_dropWhile_not p cs
    rw [hc] at hdrop
    exact hdrop

/-- A text that goes on after a character without `p` ends as what follows that character does. -/
theorem left_of_cons {p : Char → Bool} {d : Char} {before : List Char} (hd : p d = false)
    (hleft : ∀ c, before.getLast? = some c → p c = false) (start : List Char) (c : Char)
    (hc : (start ++ d :: before).getLast? = some c) : p c = false := by
  rw [List.getLast?_append, List.getLast?_cons] at hc
  cases hlast : before.getLast? with
  | none => simp_all
  | some b => simp_all

/-- A text with a character that has `p` has a run. -/
theorem exists_isRun {p : Char → Bool} {cs : List Char} (h : ∃ c ∈ cs, p c = true) :
    ∃ before run after, cs = before ++ (run ++ after) ∧ IsRun p before run after := by
  induction cs with
  | nil =>
    obtain ⟨c, hc, -⟩ := h
    cases hc
  | cons d cs ih =>
    by_cases hd : p d = true
    · refine ⟨[], _, _, List.takeWhile_append_dropWhile.symm, isRun_takeWhile ?_ (by simp)⟩
      rw [List.takeWhile_cons_of_pos hd]
      exact List.cons_ne_nil _ _
    · -- the run lies further on, and if it comes next, then `d` is its boundary
      have hrest : ∃ c ∈ cs, p c = true := by
        obtain ⟨c, hc, hpc⟩ := h
        rcases List.mem_cons.1 hc with rfl | hc
        · exact absurd hpc hd
        · exact ⟨c, hc, hpc⟩
      obtain ⟨before, run, after, rfl, hrun⟩ := ih hrest
      exact ⟨d :: before, run, after, rfl, hrun.ne_nil, hrun.inside,
        left_of_cons (by simpa using hd) hrun.left [], hrun.right⟩

/-! ## Between separators -/

section Pieces

variable {p : Char → Bool} {piece cs : List Char}

/-- A text without separators is one piece. -/
theorem splitOnP_of_inside (h : ∀ c ∈ cs, p c = true) : cs.splitOnP (fun c ↦ !p c) = [cs] :=
  List.splitOnP_eq_singleton fun c hc ↦ by simp [h c hc]

/-- The first piece ends at the first separator. -/
theorem splitOnP_append_separator (h : ∀ c ∈ cs, p c = true) {sep : Char} (hsep : p sep = false)
    (rest : List Char) :
    (cs ++ sep :: rest).splitOnP (fun c ↦ !p c) = cs :: rest.splitOnP (fun c ↦ !p c) := by
  rw [List.splitOnP_append_cons _ _ (by simp [hsep]), splitOnP_of_inside h, List.singleton_append]

theorem exists_bounds_of_mem_splitOnP (h : piece ∈ cs.splitOnP fun c ↦ !p c) :
    ∃ before after, cs = before ++ (piece ++ after) ∧ (∀ c ∈ piece, p c = true) ∧
      (∀ c, before.getLast? = some c → p c = false) ∧
      ∀ c, after.head? = some c → p c = false := by
  -- induction on the length: what is left to split starts after the first separator
  induction hn : cs.length using Nat.strong_induction_on generalizing cs with
  | h n ih =>
    have hsplit := List.takeWhile_append_dropWhile (p := p) (l := cs)
    have hinside : ∀ c ∈ cs.takeWhile p, p c = true := fun c hc ↦ List.mem_takeWhile_imp hc
    cases hrest : cs.dropWhile p with
    | nil =>
      rw [hrest, List.append_nil] at hsplit
      rw [← hsplit, splitOnP_of_inside hinside, List.mem_singleton] at h
      subst h
      exact ⟨[], [], by simp [hsplit], hinside, by simp, by simp⟩
    | cons sep rest =>
      have hsep : p sep = false := by
        have hdrop := List.head?_dropWhile_not p cs
        rw [hrest] at hdrop
        exact hdrop
      rw [hrest] at hsplit
      rw [← hsplit, splitOnP_append_separator hinside hsep] at h
      rcases List.mem_cons.1 h with rfl | hlater
      · exact ⟨[], sep :: rest, hsplit.symm, hinside, by simp, by simp [hsep]⟩
      · have hlt : rest.length < n := by
          rw [← hn, ← hsplit]
          simp
          omega
        obtain ⟨before, after, rfl, hpiece, hleft, hright⟩ := ih _ hlt hlater rfl
        exact ⟨cs.takeWhile p ++ sep :: before, after, by simp [hsplit], hpiece,
          left_of_cons hsep hleft _, hright⟩

theorem mem_splitOnP_of_bounds {before after : List Char} (hpiece : ∀ c ∈ piece, p c = true)
    (hleft : ∀ c, before.getLast? = some c → p c = false)
    (hright : ∀ c, after.head? = some c → p c = false) :
    piece ∈ (before ++ (piece ++ after)).splitOnP fun c ↦ !p c := by
  have hend : piece ∈ (piece ++ after).splitOnP (fun c ↦ !p c) := by
    cases after with
    | nil => simp [splitOnP_of_inside hpiece]
    | cons sep rest =>
      rw [splitOnP_append_separator hpiece (hright sep rfl)]
      exact List.mem_cons_self
  rcases List.eq_nil_or_concat before with rfl | ⟨start, sep, rfl⟩
  · exact hend
  · rw [List.concat_eq_append, List.append_assoc, List.singleton_append,
      List.splitOnP_append_cons _ _ (by simp [hleft sep (by simp)])]
    exact List.mem_append_right _ hend

/-- **The pieces between separators** are the stretches without separators that end at separators,
or at the ends of the text. -/
theorem mem_splitOnP_iff : piece ∈ cs.splitOnP (fun c ↦ !p c) ↔
    ∃ before after, cs = before ++ (piece ++ after) ∧ (∀ c ∈ piece, p c = true) ∧
      (∀ c, before.getLast? = some c → p c = false) ∧
      ∀ c, after.head? = some c → p c = false := by
  refine ⟨exists_bounds_of_mem_splitOnP, ?_⟩
  rintro ⟨before, after, rfl, hpiece, hleft, hright⟩
  exact mem_splitOnP_of_bounds hpiece hleft hright

end Pieces

/-! ## The words of a query -/

/-- **The words of a query** are its maximal runs of letters and digits, with the letters small. -/
theorem mem_words_iff {query word : String} :
    word ∈ words query ↔ ∃ before run after, query.toList = before ++ (run ++ after) ∧
      IsRun Char.isAlphanum before run after ∧ foldAscii (.ofList run) = word := by
  simp only [words, List.mem_map, List.mem_filter, decide_eq_true_eq, mem_splitOnP_iff]
  constructor
  · rintro ⟨run, ⟨⟨before, after, heq, hinside, hleft, hright⟩, hne⟩, hword⟩
    exact ⟨before, run, after, heq, ⟨hne, hinside, hleft, hright⟩, hword⟩
  · rintro ⟨before, run, after, heq, hrun, hword⟩
    exact ⟨run, ⟨⟨before, after, heq, hrun.inside, hrun.left, hrun.right⟩, hrun.ne_nil⟩, hword⟩

/-- A query with a letter or a digit has a word. -/
theorem words_ne_nil {query : String} {c : Char} (hc : c ∈ query.toList)
    (halnum : c.isAlphanum = true) : words query ≠ [] := by
  obtain ⟨before, run, after, heq, hrun⟩ := exists_isRun ⟨c, hc, halnum⟩
  exact List.ne_nil_of_mem (mem_words_iff.2 ⟨before, run, after, heq, hrun, rfl⟩)

/-- What stands after a separator adds its words. -/
theorem words_append_cons (cs ds : List Char) {sep : Char} (hsep : sep.isAlphanum = false) :
    words (.ofList (cs ++ sep :: ds)) = words (.ofList cs) ++ words (.ofList ds) := by
  simp only [words, String.toList_ofList]
  rw [List.splitOnP_append_cons _ _ (by simp [hsep]), List.filter_append, List.map_append]

end Microblog.Text
