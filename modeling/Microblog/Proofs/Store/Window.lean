import Microblog.Proofs.Calendar
import Microblog.Proofs.Store.Ranking

/-!
# Tweets of the last hours

The time of a tweet is kept as text, and whether the tweet is one of the last hours is decided by
comparing texts.  As texts compare as times do (`Timestamp.text_lt_text_iff`), this is about the
seconds: a tweet counts just if its second is not before the first one of these hours
(`Store.isSince_iff`).

The hashtags of some tweets, with the numbers of those that carry them, are a ranking of these
tweets (`Store.Ranks`), and what the store ranks by its links is of this kind
(`Store.ranks_usedTags`).  The tweets that count are those of the last hours, or all tweets if there
is no hashtag in those (`Store.window`).
-/

set_option autoImplicit false

namespace Microblog

namespace Store

variable {s : Store} {time : StoredTweet → Nat} {now hours : Nat}

/-- The times of the tweets are the texts of these seconds. -/
def Times (s : Store) (time : StoredTweet → Nat) : Prop :=
  ∀ t ∈ s.tweets.list, Timestamp.text? (time t) = some t.createdAt

/-- The time of a tweet is that of one second. -/
theorem Dated.existsUnique (h : s.Dated) {t : StoredTweet} (ht : t ∈ s.tweets.list) :
    ∃! second : Nat, Timestamp.text? second = some t.createdAt := by
  obtain ⟨second, hsecond⟩ := h t ht
  exact ⟨second, hsecond, fun _ hother ↦ Timestamp.text?_injective hother hsecond⟩

/-- **A tweet is one of the last hours just if it is not older than they are.** -/
theorem isSince_iff (h : s.Times time) {t : StoredTweet} (ht : t ∈ s.tweets.list)
    (hhours : 3600 * (hours : Int) ≤ -Timestamp.yearZero) :
    s.isSince (cutoff now hours) t.id = true ↔ now / 1000000000 ≤ time t + 3600 * hours := by
  have hget : s.tweets.get? t.id = some t := Rows.get?_eq_some_iff.2 ⟨ht, rfl⟩
  have hfirst : Timestamp.yearZero ≤ (now / 1000000000 : Nat) - 3600 * (hours : Int) := by omega
  obtain ⟨hlast, htext⟩ :=
    (Timestamp.text?_eq_some_iff (Timestamp.yearZero_le (time t))).1 (h t ht)
  cases hcutoff : cutoff now hours with
  | none =>
    -- the calendar has ended, and no tweet is that late
    have hended : ¬((now / 1000000000 : Nat) - 3600 * (hours : Int) ≤ Timestamp.last) := by
      intro hin
      have hsome := (Timestamp.text?_eq_some_iff hfirst).2 ⟨hin, rfl⟩
      rw [← cutoff, hcutoff] at hsome
      cases hsome
    exact iff_of_false Bool.false_ne_true (by omega)
  | some since =>
    obtain ⟨hin, hsince⟩ := (Timestamp.text?_eq_some_iff hfirst).1 hcutoff
    have hlt := Timestamp.text_lt_text_iff (Timestamp.yearZero_le (time t)) hlast hfirst hin
    rw [htext, hsince] at hlt
    rw [isSince, Option.any_some, hget, Option.any_some, Bool.not_eq_true', decide_eq_false_iff_not,
      hlt]
    omega

/-! ## Rankings of the hashtags of some tweets -/

/-- The hashtags in the texts of some tweets, each with the number of those that carry it. -/
structure Ranks (s : Store) (tweets : List StoredTweet) (tags : List Hashtag) : Prop where
  /-- The more used comes first, of equals by name. -/
  ordered : tags.Pairwise Hashtag.Outranks
  /-- None is listed twice. -/
  once : (tags.map Hashtag.name).Nodup
  names : ∀ name, name ∈ tags.map Hashtag.name ↔ ∃ t ∈ tweets, name ∈ t.hashtags
  counts : ∀ tag ∈ tags, tag.tweetCount = (tweets.filter fun t ↦ tag.name ∈ t.hashtags).length
  stored : ∀ tag ∈ tags, ∃ row ∈ s.hashtags.list, row.id = tag.id ∧ row.name = tag.name

theorem Ranks.eq_nil_iff {tweets : List StoredTweet} {tags : List Hashtag}
    (h : s.Ranks tweets tags) : tags = [] ↔ ∀ t ∈ tweets, t.hashtags = [] := by
  rw [← List.map_eq_nil_iff (f := Hashtag.name), List.eq_nil_iff_forall_not_mem]
  simp only [h.names, List.eq_nil_iff_forall_not_mem, not_exists, not_and]
  exact forall_comm.trans (forall_congr' fun _ ↦ forall_comm)

/-- The hashtags that tweets which satisfy `p` are linked to, by rank. -/
def usedTags (s : Store) (p : Int → Bool) : List Hashtag :=
  ((s.hashtags.list.map (s.tally p)).filter (0 < ·.tweetCount)).mergeSort Hashtag.precedes

theorem mem_usedTags {p : Int → Bool} {tag : Hashtag} : tag ∈ s.usedTags p ↔
    ∃ row ∈ s.hashtags.list, s.tally p row = tag ∧ 0 < (s.tally p row).tweetCount := by
  rw [usedTags, List.mem_mergeSort, List.mem_filter, List.mem_map, decide_eq_true_eq]
  constructor
  · rintro ⟨⟨row, hrow, rfl⟩, hpos⟩
    exact ⟨row, hrow, rfl, hpos⟩
  · rintro ⟨row, hrow, rfl, hpos⟩
    exact ⟨⟨row, hrow, rfl⟩, hpos⟩

/-- The number in a ranking is that of the tweets with the hashtag in their text. -/
theorem tweetCount_of_indexed (hlinked : s.Linked) (hindexed : s.Indexed) {row : Tag}
    (hrow : row ∈ s.hashtags.list) (p : Int → Bool) : (s.tally p row).tweetCount =
      ((s.tweets.list.filter (p ·.id)).filter fun t ↦ row.name ∈ t.hashtags).length := by
  rw [hlinked.tweetCount_tally hrow p, List.filter_filter]
  refine congrArg (fun ts : List StoredTweet ↦ (ts.length : Int)) (List.filter_congr fun t ht ↦ ?_)
  rw [hindexed.tagNames_eq ht, Bool.decide_and, Bool.decide_eq_true]

/-- **The hashtags that tweets are linked to are those in their texts.** -/
theorem ranks_usedTags (hlinked : s.Linked) (hindexed : s.Indexed) (p : Int → Bool) :
    s.Ranks (s.tweets.list.filter (p ·.id)) (s.usedTags p) := by
  have hcount := fun (row : Tag) (hrow : row ∈ s.hashtags.list) ↦
    tweetCount_of_indexed hlinked hindexed hrow p
  have hused : ∀ row ∈ s.hashtags.list, 0 < (s.tally p row).tweetCount ↔
      ∃ t ∈ s.tweets.list.filter (p ·.id), row.name ∈ t.hashtags := by
    intro row hrow
    rw [hcount row hrow, Int.natCast_pos, List.length_filter_pos_iff]
    simp only [decide_eq_true_eq]
  refine ⟨hlinked.pairwise_mergeSort List.filter_sublist, ?_, fun name ↦ ?_, fun tag htag ↦ ?_,
    fun tag htag ↦ ?_⟩
  · refine ((List.mergeSort_perm _ _).map Hashtag.name).nodup_iff.2 (List.pairwise_map.2 ?_)
    exact (hlinked.pairwise_tallies p).sublist List.filter_sublist
  · rw [List.mem_map]
    constructor
    · rintro ⟨tag, htag, rfl⟩
      obtain ⟨row, hrow, rfl, hpos⟩ := mem_usedTags.1 htag
      exact (hused row hrow).1 hpos
    · rintro ⟨t, ht, hname⟩
      have hlinks : name ∈ s.tagNames t.id := by
        rwa [hindexed.tagNames_eq (List.mem_filter.1 ht).1]
      obtain ⟨row, hrow, rfl⟩ := exists_tag_of_mem_tagNames hlinks
      have hpos := (hused row hrow).2 ⟨t, ht, hname⟩
      exact ⟨s.tally p row, mem_usedTags.2 ⟨row, hrow, rfl, hpos⟩, rfl⟩
  · obtain ⟨row, hrow, rfl, -⟩ := mem_usedTags.1 htag
    exact hcount row hrow
  · obtain ⟨row, hrow, rfl, -⟩ := mem_usedTags.1 htag
    exact ⟨row, hrow, rfl, rfl⟩

/-! ## The tweets that count -/

/-- The tweets of the last hours. -/
def recent (s : Store) (time : StoredTweet → Nat) (now hours : Nat) : List StoredTweet :=
  s.tweets.list.filter fun t ↦ now / 1000000000 ≤ time t + 3600 * hours

/-- The tweets that count: those of the last hours, or all if those carry no hashtag. -/
def window (s : Store) (time : StoredTweet → Nat) (now hours : Nat) : List StoredTweet :=
  if ∀ t ∈ s.recent time now hours, t.hashtags = [] then s.tweets.list else s.recent time now hours

theorem ranks_recent (hlinked : s.Linked) (hindexed : s.Indexed) (h : s.Times time)
    (hhours : 3600 * (hours : Int) ≤ -Timestamp.yearZero) :
    s.Ranks (s.recent time now hours) (s.usedTags (s.isSince (cutoff now hours))) := by
  have hsame : s.recent time now hours =
      s.tweets.list.filter fun t ↦ s.isSince (cutoff now hours) t.id :=
    List.filter_congr fun t ht ↦ by
      rw [Bool.eq_iff_iff, decide_eq_true_eq, isSince_iff h ht hhours]
  rw [hsame]
  exact ranks_usedTags hlinked hindexed _

theorem ranks_all (hlinked : s.Linked) (hindexed : s.Indexed) :
    s.Ranks s.tweets.list (s.usedTags fun _ ↦ true) := by
  have hranks := ranks_usedTags hlinked hindexed fun _ ↦ true
  rwa [List.filter_true] at hranks

/-- Where all tweets are of the present, and the calendar has not ended, all of them count. -/
theorem window_of_present (hours : Nat)
    (hnow : now / 1000000000 ≤ Timestamp.last.toNat)
    (h : ∀ t ∈ s.tweets.list, t.createdAt = stamp now) :
    s.Times (fun _ ↦ now / 1000000000) ∧
      s.window (fun _ ↦ now / 1000000000) now hours = s.tweets.list := by
  have hall : s.recent (fun _ ↦ now / 1000000000) now hours = s.tweets.list :=
    List.filter_eq_self.2 fun t _ ↦ decide_eq_true (Nat.le_add_right _ _)
  have htext := text?_stamp now
  rw [Nat.min_eq_left hnow] at htext
  refine ⟨fun t ht ↦ htext.trans (congrArg some (h t ht).symm), ?_⟩
  rw [window, hall, ite_self]

end Store

end Microblog
