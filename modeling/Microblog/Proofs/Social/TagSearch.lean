import Microblog.Proofs.Social.Paging
import Microblog.Proofs.Social.Spending
import Microblog.Proofs.Store.Ranking
import Microblog.Proofs.Text.TagStart
import Microblog.Proofs.Text.Trim

/-!
# Searching hashtags by their start

A query for hashtags is trimmed, loses its hash signs and is lowercased (`AsksForStart`).  What it
finds are the hashtags whose name begins with what is left, letter by letter, each with the number
of stored tweets that carry it: `Social.run_findsTags` says so of every run.

Three things come together.  The pattern matches a name just if the name begins with the text
(`Text.Pattern.like_tag_iff`), because names are tags in lowercase (`Social.run_namedTags`); a
number of links is one of tweets (`Store.Linked.tweetCount_tally`); and the ranking is in a strict
order (`Store.Linked.pairwise_mergeSort`).

The pattern must not be too long (`Store.WithinTagLimits`); if it is, the search fails, and says so
(`Social.searchTags_refused`).
-/

set_option autoImplicit false

namespace Microblog

open Text

/-! ## What a query asks for -/

/-- The query asks for the hashtags that begin with `start`: this is what is left of it, in
lowercase, without the blanks around it and without the hash signs that come first then. -/
def AsksForStart (query start : String) : Prop :=
  ∃ hashes rest : List Char, Trimmed query.toList (hashes ++ rest) ∧ (∀ c ∈ hashes, c = '#') ∧
    rest.head? ≠ some '#' ∧ lowercase (.ofList rest) = start

theorem withoutHashes_append {hashes rest : List Char} (hhashes : ∀ c ∈ hashes, c = '#')
    (hrest : rest.head? ≠ some '#') : Action.withoutHashes (hashes ++ rest) = rest := by
  rw [Action.withoutHashes, List.dropWhile_append_of_pos fun c hc ↦ decide_eq_true (hhashes c hc)]
  cases rest with
  | nil => rfl
  | cons c rest =>
    exact List.dropWhile_cons_of_neg fun hc ↦ hrest (congrArg some (of_decide_eq_true hc))

/-- **Every query asks for the hashtags with one start**, which is the one that the search uses. -/
theorem asksForStart_iff {query start : String} :
    AsksForStart query start ↔ Action.queriedStart query = start := by
  rw [Action.queriedStart]
  constructor
  · rintro ⟨hashes, rest, htrimmed, hhashes, hrest, rfl⟩
    rw [htrimmed.trimChars_eq, withoutHashes_append hhashes hrest]
  · intro hstart
    refine ⟨(trimChars query.toList).takeWhile (· = '#'),
      Action.withoutHashes (trimChars query.toList), ?_, fun c hc ↦ ?_, fun hfirst ↦ ?_, hstart⟩
    · rw [Action.withoutHashes, List.takeWhile_append_dropWhile]
      exact trimmed_trimChars query.toList
    · have hhash := List.mem_takeWhile_imp hc
      exact of_decide_eq_true hhash
    · have hstop := List.head?_dropWhile_not (· = '#') (trimChars query.toList)
      rw [Action.withoutHashes] at hfirst
      rw [hfirst] at hstop
      exact absurd hstop (by decide)

namespace AsksForStart

variable {query start : String} (h : AsksForStart query start)

include h

theorem lowercase_eq : lowercase start = start := by
  obtain ⟨-, rest, -, -, -, rfl⟩ := h
  exact lowercase_lowercase _

/-- What is left of a query without NULs has none. -/
theorem nul_not_mem (hnul : '\x00' ∉ query.toList) : '\x00' ∉ start.toList := by
  obtain ⟨hashes, rest, htrimmed, -, -, rfl⟩ := h
  obtain ⟨before, after, hquery, -⟩ := htrimmed.around
  refine nul_not_mem_lowercase fun hmem ↦ hnul ?_
  rw [String.toList_ofList] at hmem
  rw [hquery]
  exact List.mem_append_left _ (List.mem_append_right _ (List.mem_append_right _ hmem))

end AsksForStart

/-! ## What the store finds -/

namespace Store

variable {s : Store} {start : String} {limit : Int}

/-- A search for hashtags is one that the store can carry out: the pattern of the start has 50000
bytes at most, or there is nothing that it would be held against.  In a pattern a backslash stands
before each of the characters `%`, `_` and backslash, and one character more at the end. -/
def WithinTagLimits (s : Store) (start : String) : Prop :=
  start.utf8ByteSize + start.toList.countP (· ∈ ['%', '_', '\\']) + 1 ≤ 50000 ∨
    s.hashtags.list = []

/-- A hashtag with the number of stored tweets that carry it. -/
def carried (s : Store) (tag : Tag) : Hashtag :=
  ⟨tag.id, tag.name, (s.tweets.list.filter fun t ↦ tag.name ∈ s.tagNames t.id).length⟩

theorem Linked.tally_eq_carried (h : s.Linked) {tag : Tag} (htag : tag ∈ s.hashtags.list) :
    s.tally (fun _ ↦ true) tag = s.carried tag := by
  have hcount := h.tweetCount_tally htag fun _ ↦ true
  simp only [and_true] at hcount
  rw [carried, ← hcount]
  rfl

/-- The hashtags whose name matches the pattern of a start, by rank. -/
def startingTags (s : Store) (start : String) : List Hashtag :=
  ((s.hashtags.list.filter fun t ↦ Pattern.like t.name.toList (Pattern.startingWith start)).map
    (s.tally fun _ ↦ true)).mergeSort Hashtag.precedes

section

variable (h : s.Equipped) (hstart : lowercase start = start)

include h hstart

theorem searchTags_eq_ok (hlimits : s.WithinTagLimits start) (hlimit : 1 ≤ limit) :
    s.searchTags start limit = .ok ((s.startingTags start).take limit.toNat) := by
  have hdemand : demand .other (Pattern.fits (Pattern.startingWith start) ∨
      s.hashtags.list = [] ∨ limit = 0) = .ok () :=
    demand_eq_ok_iff.2 (hlimits.imp (Pattern.fits_startingWith hstart).2 .inl)
  rw [searchTags, h.require]
  dsimp only
  rw [hdemand]
  exact congrArg Except.ok (ranked_eq_take (by omega) _)

theorem searchTags_eq_error (hlimits : ¬s.WithinTagLimits start) (hlimit : limit ≠ 0) :
    s.searchTags start limit = .error ⟨"search hashtags", .other⟩ := by
  have hdemand : demand .other (Pattern.fits (Pattern.startingWith start) ∨
      s.hashtags.list = [] ∨ limit = 0) = .error .other := by
    refine demand_eq_error_iff.2 ⟨?_, rfl⟩
    rintro (hfits | hnone | hzero)
    · exact hlimits (.inl ((Pattern.fits_startingWith hstart).1 hfits))
    · exact hlimits (.inr hnone)
    · exact hlimit hzero
  rw [searchTags, h.require]
  dsimp only
  rw [hdemand]
  rfl

end

end Store

namespace Social

/-- What a search for hashtags finds, with the query `query` for those that begin with `start`. -/
structure FindsTags (s : Social) : Prop where
  /-- It finds the hashtags that begin with the start, in a strict order, of which the first ones
  are shown. -/
  found : ∀ {query start : String} {limit : Int}, '\x00' ∉ query.toList →
    AsksForStart query start → start ≠ "" → 1 ≤ limit → s.store.WithinTagLimits start →
    ∃ all : List Hashtag, (Action.searchTags query limit).answer s = .ok (all.take limit.toNat) ∧
      all.Pairwise Hashtag.Outranks ∧
      ∀ tag, tag ∈ all ↔ ∃ row ∈ s.store.hashtags.list,
        start.toList <+: row.name.toList ∧ tag = s.store.carried row
  /-- Beyond the limits of the store it fails. -/
  refused : ∀ {query start : String} {limit : Int}, AsksForStart query start → start ≠ "" →
    1 ≤ limit → ¬s.store.WithinTagLimits start →
    ∃ f, (Action.searchTags query limit).answer s = .error f ∧
      f.report = ⟨.internal, "Failed to search hashtags"⟩

/-- A search with a start asks the store. -/
theorem answer_searchTags {query start : String} (h : AsksForStart query start) (hne : start ≠ "")
    (limit : Int) (s : Social) : (Action.searchTags query limit).answer s =
      (Action.ask (Store.searchTags start limit)).answer s := by
  rw [Action.searchTags, asksForStart_iff.1 h, if_neg hne]

theorem findsTags_of_linked {s : Social} (h : s.store.Equipped) (hlinked : s.store.Linked)
    (hnamed : s.store.Named IsTag) : s.FindsTags where
  found {query start limit} hnul hasks hne hlimit hlimits := by
    refine ⟨s.store.startingTags start, ?_, ?_, fun tag ↦ ?_⟩
    · rw [answer_searchTags hasks hne]
      exact (Action.answer_ask_eq_ok_iff s).2
        (Store.searchTags_eq_ok h hasks.lowercase_eq hlimits hlimit)
    · exact hlinked.pairwise_mergeSort (List.filter_sublist.map _)
    · have hlike : ∀ row ∈ s.store.hashtags.list,
          (Pattern.like row.name.toList (Pattern.startingWith start) = true ↔
            start.toList <+: row.name.toList) := fun row hrow ↦ by
        rw [Pattern.like_tag_iff (hasks.nul_not_mem hnul) (hnamed row hrow), hasks.lowercase_eq]
      rw [Store.startingTags, List.mem_mergeSort, List.mem_map]
      constructor
      · rintro ⟨row, hrow, rfl⟩
        obtain ⟨hrow, hmatch⟩ := List.mem_filter.1 hrow
        exact ⟨row, hrow, (hlike row hrow).1 hmatch, hlinked.tally_eq_carried hrow⟩
      · rintro ⟨row, hrow, hprefix, rfl⟩
        exact ⟨row, List.mem_filter.2 ⟨hrow, (hlike row hrow).2 hprefix⟩,
          hlinked.tally_eq_carried hrow⟩
  refused {query start limit} hasks hne hlimit hlimits := by
    refine ⟨.store ⟨"search hashtags", .other⟩, ?_, rfl⟩
    rw [answer_searchTags hasks hne, Action.ask, Action.answer_get_bind,
      Store.searchTags_eq_error h hasks.lowercase_eq hlimits (by omega)]
    rfl

theorem linked_migrated : Store.migrated.Linked where
  named _ ha := absurd ha List.not_mem_nil
  tweets _ hl := absurd hl List.not_mem_nil
  tags _ hl := absurd hl List.not_mem_nil

theorem run_linked (capacity : Nat) (cached : Bool) (lifetimes : Lifetimes)
    (ops : List Operation) : ((start capacity cached lifetimes).run ops).store.Linked :=
  run_keeps Store.Linked.change _ ops linked_migrated

/-- **In every run a search for hashtags finds those whose name begins with the query**, by the
number of stored tweets that carry them and then by name. -/
theorem run_findsTags (capacity : Nat) (cached : Bool) (lifetimes : Lifetimes)
    (ops : List Operation) : ((start capacity cached lifetimes).run ops).FindsTags :=
  findsTags_of_linked (run_readable capacity cached lifetimes ops).1.equipped
    (run_linked capacity cached lifetimes ops) (run_namedTags capacity cached lifetimes ops)

/-! ## The limit is needed -/

/-- A query of `n` letters. -/
def longQuery (n : Nat) : String := .ofList (List.replicate n 'a')

theorem toList_longQuery (n : Nat) : (longQuery n).toList = List.replicate n 'a' :=
  String.toList_ofList

theorem asksForStart_longQuery (n : Nat) : AsksForStart (longQuery n) (longQuery n) := by
  have hchars : ∀ c ∈ List.replicate n 'a', isTagChar c = true := fun c hc ↦ by
    rw [List.eq_of_mem_replicate hc]
    decide
  have htrim : trimChars (List.replicate n 'a') = List.replicate n 'a' :=
    trimChars_eq_self fun c hc ↦ by rw [List.eq_of_mem_replicate hc]; decide
  refine ⟨[], List.replicate n 'a', ?_, fun c hc ↦ absurd hc List.not_mem_nil, fun hfirst ↦ ?_, ?_⟩
  · rw [toList_longQuery, List.nil_append]
    exact trimChars_eq_iff.1 htrim
  · have hhash := List.eq_of_mem_replicate (List.mem_of_mem_head? hfirst)
    exact absurd hhash (by decide)
  · rw [lowercase, String.toList_ofList, lowercaseFrom_of_isTagChar hchars, List.map_replicate]
    rfl

theorem longQuery_ne_empty {n : Nat} (hn : 0 < n) : longQuery n ≠ "" := by
  intro hempty
  have hlength := congrArg List.length (toList_longQuery n)
  rw [hempty, List.length_replicate] at hlength
  exact absurd hlength (by simpa using hn.ne)

theorem utf8ByteSize_longQuery (n : Nat) : (longQuery n).utf8ByteSize = n := by
  have hsize : ('a').utf8Size = 1 := rfl
  rw [longQuery, String.utf8ByteSize_ofList]
  induction n with
  | zero => rfl
  | succ n ih => rw [List.replicate_succ, String.utf8Len_cons, ih, hsize]

/-- A query that is a start like any other, but too long for a pattern, finds nothing; it fails. -/
theorem searchTags_refused : '\x00' ∉ (longQuery 50000).toList ∧
    AsksForStart (longQuery 50000) (longQuery 50000) ∧ longQuery 50000 ≠ "" ∧
    ¬∃ found, (Action.searchTags (longQuery 50000) 10).answer sampleTag = .ok found := by
  have hequipped : sampleTag.store.Equipped := (run_readable 1 false ⟨0, 0⟩ _).1.equipped
  have hstored : sampleTag.store.hashtags.list ≠ [] := by decide +kernel
  have hasks := asksForStart_longQuery 50000
  have hne : longQuery 50000 ≠ "" := longQuery_ne_empty (by decide)
  have hlimits : ¬sampleTag.store.WithinTagLimits (longQuery 50000) := by
    rintro (hfits | hnone)
    · rw [utf8ByteSize_longQuery] at hfits
      omega
    · exact hstored hnone
  refine ⟨fun hmem ↦ ?_, hasks, hne, ?_⟩
  · rw [toList_longQuery] at hmem
    exact absurd (List.eq_of_mem_replicate hmem) (by decide)
  · rintro ⟨found, hfound⟩
    rw [answer_searchTags hasks hne, Action.ask, Action.answer_get_bind,
      Store.searchTags_eq_error hequipped hasks.lowercase_eq hlimits (by decide)] at hfound
    cases hfound

end Social

end Microblog
