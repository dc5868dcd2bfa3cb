import Mathlib.Data.String.Basic
import Microblog.Proofs.Store.Linked
import Microblog.Proofs.Store.Listing

/-!
# Rankings of hashtags

A ranking lists hashtags in a strict order: by the number of tweets, and those with equal numbers by
name (`Store.Linked.pairwise_mergeSort`).  The number is a number of links.  As a link joins a
stored tweet and a stored hashtag, and no two links join the same, it is the number of stored tweets
that carry the hashtag (`Store.Linked.tweetCount_tally`).
-/

set_option autoImplicit false

namespace Microblog

/-- More tweets carry the first of two hashtags, or as many and its name comes first. -/
def Hashtag.Outranks (a b : Hashtag) : Prop :=
  b.tweetCount < a.tweetCount ∨ a.tweetCount = b.tweetCount ∧ a.name < b.name

namespace Store

variable {s : Store}

/-- Hashtags with different names that are sorted by rank stand in a strict order. -/
theorem pairwise_mergeSort_precedes {tags : List Hashtag}
    (h : tags.Pairwise fun a b ↦ a.name ≠ b.name) :
    (tags.mergeSort Hashtag.precedes).Pairwise Hashtag.Outranks := by
  let rank (tag : Hashtag) : ℤᵒᵈ ×ₗ String := toLex (OrderDual.toDual tag.tweetCount, tag.name)
  have hle : ∀ a ∈ tags, ∀ b ∈ tags, a.precedes b = true ↔ rank a ≤ rank b := by
    intro a _ b _
    rw [Prod.Lex.toLex_le_toLex, Hashtag.precedes, Bool.or_eq_true, Bool.and_eq_true,
      decide_eq_true_eq, beq_iff_eq, Bool.not_eq_true', decide_eq_false_iff_not, not_lt]
    rfl
  have hne : tags.Pairwise fun a b ↦ rank a ≠ rank b := h.imp fun hname hrank ↦
    hname (Prod.mk.inj (toLex.injective hrank)).2
  refine (pairwise_mergeSort_of_rank rank hle hne).imp fun {a b} hlt ↦ ?_
  rw [Prod.Lex.toLex_lt_toLex] at hlt
  exact hlt

/-- A limit that is not negative is how many hashtags of a ranking are shown. -/
theorem ranked_eq_take {limit : Int} (hlimit : 0 ≤ limit) (tags : List Hashtag) :
    ranked limit tags = (tags.mergeSort Hashtag.precedes).take limit.toNat := by
  rw [ranked, limited, if_neg (Int.not_lt.2 hlimit)]

namespace Linked

/-- No two hashtags have the same name, with however many tweets each is listed. -/
theorem pairwise_tallies (h : s.Linked) (p : Int → Bool) :
    (s.hashtags.list.map (s.tally p)).Pairwise fun a b ↦ a.name ≠ b.name := by
  have hkeys : s.hashtags.list.Pairwise fun a b ↦ Row.key a ≠ Row.key b :=
    List.pairwise_map.1 s.hashtags.nodup
  refine List.pairwise_map.2 (hkeys.imp_of_mem fun {a b} ha hb hkey hname ↦ hkey ?_)
  rw [h.named a ha b hb hname]

/-- **A ranking of hashtags is in a strict order.** -/
theorem pairwise_mergeSort (h : s.Linked) {p : Int → Bool} {tags : List Hashtag}
    (htags : tags.Sublist (s.hashtags.list.map (s.tally p))) :
    (tags.mergeSort Hashtag.precedes).Pairwise Hashtag.Outranks :=
  pairwise_mergeSort_precedes ((h.pairwise_tallies p).sublist htags)

/-- **The number in a ranking is that of the stored tweets that carry the hashtag.** -/
theorem tweetCount_tally (h : s.Linked) {tag : Tag} (htag : tag ∈ s.hashtags.list)
    (p : Int → Bool) : (s.tally p tag).tweetCount =
      (s.tweets.list.filter fun t ↦ tag.name ∈ s.tagNames t.id ∧ p t.id).length := by
  -- both sides count the numbers of the same tweets
  let linked := (s.tagLinks.list.filter fun l ↦ l.tagId = tag.id ∧ p l.tweetId).map TagLink.tweetId
  let carrying :=
    (s.tweets.list.filter fun t ↦ tag.name ∈ s.tagNames t.id ∧ p t.id).map StoredTweet.id
  have hlinked : linked.Nodup := by
    have hkeys := s.tagLinks.pairwise_key_ne fun l ↦ l.tagId = tag.id ∧ p l.tweetId
    refine List.pairwise_map.2 (hkeys.imp_of_mem fun {l m} hl hm hkey htweet ↦ hkey ?_)
    have hltag := (of_decide_eq_true (List.mem_filter.1 hl).2).1
    have hmtag := (of_decide_eq_true (List.mem_filter.1 hm).2).1
    exact Prod.ext htweet (hltag.trans hmtag.symm)
  have hcarrying : carrying.Nodup := List.pairwise_map.2 (s.tweets.pairwise_key_ne _)
  have hsame : ∀ id, id ∈ linked ↔ id ∈ carrying := by
    intro id
    simp only [linked, carrying, List.mem_map, List.mem_filter, decide_eq_true_eq,
      h.mem_tagNames_iff htag, Rows.has_iff]
    constructor
    · rintro ⟨l, ⟨hl, hid, hp⟩, rfl⟩
      obtain ⟨t, ht, htweet⟩ := Rows.has_iff.1 (h.tweets l hl)
      have htweet : t.id = l.tweetId := htweet
      exact ⟨t, ⟨ht, ⟨l, hl, Prod.ext htweet.symm hid⟩, htweet ▸ hp⟩, htweet⟩
    · rintro ⟨t, ⟨-, ⟨l, hl, hkey⟩, hp⟩, rfl⟩
      obtain ⟨htweet, hid⟩ := Prod.mk.inj hkey
      exact ⟨l, ⟨hl, hid, htweet ▸ hp⟩, htweet⟩
  have hlength := ((List.perm_ext_iff_of_nodup hlinked hcarrying).2 hsame).length_eq
  rw [List.length_map, List.length_map] at hlength
  exact congrArg Nat.cast hlength

end Linked

end Store

end Microblog
