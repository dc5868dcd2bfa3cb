import Microblog.Proofs.Store.Rows
import Microblog.Store.Delete

/-!
# What a deletion takes along

A deletion starts with some tweets and takes along, level by level, what answers or retweets the
tweets of the level before.  `StoredTweet.Doomed` is that set said without levels: the least set
that holds the roots and everything that refers to one of its members.

`StoredTweet.mem_of_spread?` says that a search that ends has found exactly this set, however deep
it was allowed to go.  What the set is closed under and what it consists of is all that any
statement about deletions needs; the search itself is not looked at again.
-/

set_option autoImplicit false

namespace Microblog

namespace StoredTweet

/-- A tweet refers to the tweet that it answers and to the one that it retweets. -/
def RefersTo (t : StoredTweet) (d : Int) : Prop := t.parentId = some d ∨ t.retweetId = some d

theorem hangsOn_iff {t : StoredTweet} {ids : List Int} :
    t.hangsOn ids = true ↔ ∃ d ∈ ids, t.RefersTo d := by
  simp only [hangsOn, RefersTo, Bool.or_eq_true, Option.any_eq_true, List.contains_iff_mem]
  constructor
  · rintro (⟨d, hd, hmem⟩ | ⟨d, hd, hmem⟩)
    · exact ⟨d, hmem, .inl hd⟩
    · exact ⟨d, hmem, .inr hd⟩
  · rintro ⟨d, hmem, hd | hd⟩
    · exact .inl ⟨d, hd, hmem⟩
    · exact .inr ⟨d, hd, hmem⟩

/-- The numbers that go away when the `roots` do: the roots and, of the tweets, those that refer to
what goes away. -/
inductive Doomed (tweets : List StoredTweet) (roots : List Int) : Int → Prop
  | root {d : Int} (hd : d ∈ roots) : Doomed tweets roots d
  | step {t : StoredTweet} {d : Int} (ht : t ∈ tweets) (href : t.RefersTo d)
      (hd : Doomed tweets roots d) : Doomed tweets roots t.id

theorem not_doomed_nil {tweets : List StoredTweet} {d : Int} : ¬Doomed tweets [] d := by
  intro h
  induction h with
  | root hd => exact List.not_mem_nil hd
  | step _ _ _ ih => exact ih

/-! ## The search finds exactly that set

The induction carries three facts about what was `seen` so far: it holds the last level `ids`, all
of it follows from the roots, and a tweet that refers to it is in it, or else refers to the last
level, which the next step looks at. -/

section Search

variable {tweets : List StoredTweet} {roots D : List Int}

theorem subset_of_spread? {n : Nat} {seen ids : List Int}
    (h : spread? tweets n seen ids = some D) : seen ⊆ D := by
  fun_induction spread? tweets n seen ids with
  | case1 seen => exact (Option.some.inj h) ▸ List.Subset.refl _
  | case2 => simp at h
  | case3 seen ids t ts n _ more ih =>
    exact List.Subset.trans (List.subset_append_left _ _) (ih h)

theorem doomed_of_spread? {n : Nat} {seen ids : List Int}
    (h : spread? tweets n seen ids = some D) (hids : ids ⊆ seen)
    (hseen : ∀ d ∈ seen, Doomed tweets roots d) : ∀ d ∈ D, Doomed tweets roots d := by
  fun_induction spread? tweets n seen ids with
  | case1 seen => exact (Option.some.inj h) ▸ hseen
  | case2 => simp at h
  | case3 seen ids t ts n hlevel more ih =>
    refine ih h (List.subset_append_right _ _) fun d hd ↦ ?_
    rcases List.mem_append.1 hd with hd | hd
    · exact hseen d hd
    · obtain ⟨u, hu, rfl⟩ := List.mem_map.1 hd
      rw [← hlevel, List.mem_filter, Bool.and_eq_true, hangsOn_iff] at hu
      obtain ⟨hmem, ⟨d, hd, href⟩, -⟩ := hu
      exact .step hmem href (hseen d (hids hd))

theorem closed_of_spread? {n : Nat} {seen ids : List Int}
    (h : spread? tweets n seen ids = some D)
    (hseen : ∀ t ∈ tweets, ∀ d ∈ seen, t.RefersTo d → t.id ∈ seen ∨ t.hangsOn ids = true) :
    ∀ t ∈ tweets, ∀ d ∈ D, t.RefersTo d → t.id ∈ D := by
  fun_induction spread? tweets n seen ids with
  | case1 n seen ids hlevel =>
    cases h
    intro t ht d hd href
    rcases hseen t ht d hd href with hmem | hids
    · exact hmem
    · have := List.filter_eq_nil_iff.1 hlevel t ht
      simpa [hids] using this
  | case2 => simp at h
  | case3 seen ids t ts n hlevel more ih =>
    refine ih h fun u hu d hd href ↦ ?_
    rcases List.mem_append.1 hd with hd | hd
    · rcases hseen u hu d hd href with hmem | hids
      · exact .inl (List.mem_append_left _ hmem)
      · -- what hangs on this level is on the next one, unless it was seen before
        by_cases hmem : u.id ∈ seen
        · exact .inl (List.mem_append_left _ hmem)
        · have hu' : u ∈ t :: ts := by
            rw [← hlevel, List.mem_filter]
            exact ⟨hu, by simp [hids, hmem]⟩
          exact .inl (List.mem_append_right _ (List.mem_map_of_mem hu'))
    · exact .inr (hangsOn_iff.2 ⟨d, hd, href⟩)

/-- **A search that ends has found all that follows from the roots, and nothing else.** -/
theorem mem_of_spread? {n : Nat} (h : spread? tweets n roots roots = some D) {d : Int} :
    d ∈ D ↔ Doomed tweets roots d := by
  refine ⟨doomed_of_spread? h (List.Subset.refl _) (fun _ ↦ .root) d, fun hd ↦ ?_⟩
  have hclosed := closed_of_spread? h fun t _ d hd href ↦ .inr (hangsOn_iff.2 ⟨d, hd, href⟩)
  induction hd with
  | root hd => exact subset_of_spread? h hd
  | step ht href _ ih => exact hclosed _ ht _ ih href

end Search

end StoredTweet

end Microblog
