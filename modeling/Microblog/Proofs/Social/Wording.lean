import Microblog.Proofs.Social.Paging
import Microblog.Proofs.Text.Hashtag
import Microblog.Proofs.Text.Pattern

/-!
# Finding tweets by words

A query that does not start with a hash sign asks for the tweets that contain all its words.  Its
words are its maximal runs of letters and digits (`IsWordOf`), and a tweet has them if each of them
stands somewhere in its text, capital or small (`StoredTweet.HasWords`).  `Social.run_findsWords`
says of every run that the pages of a search show these tweets and no others.

* A word consists of letters and digits, on which lowercasing and comparing agree
  (`Pattern.like_word_iff`).
* Blanks at the ends of a query make no difference to its words (`words_trim`).
* A query that stands in a text as it is has its words there (`StoredTweet.hasWords_of_infix`), and
  with more words there is more to be found (`StoredTweet.HasWords.of_more`).
-/

set_option autoImplicit false

namespace Microblog

namespace Text

/-! ## Words as patterns -/

theorem isTagChar_of_isAlphanum {c : Char} (h : c.isAlphanum = true) : isTagChar c = true :=
  isTagChar_iff.2 (.inl h)

/-- A run of letters and digits is lowercased as it is compared. -/
theorem lowercase_eq_foldAscii {run : List Char} (h : ∀ c ∈ run, c.isAlphanum = true) :
    lowercase (.ofList run) = foldAscii (.ofList run) := by
  have hsmall : run.map smallTagChar = run.map foldChar := by
    refine List.map_congr_left fun c hc ↦ if_neg ?_
    have halnum := isAlphanum_iff.1 (h c hc)
    omega
  rw [lowercase, String.toList_ofList,
    lowercaseFrom_of_isTagChar fun c hc ↦ isTagChar_of_isAlphanum (h c hc), hsmall, foldAscii,
    String.toList_ofList]

/-- A word is a tag, and in lowercase. -/
theorem isTag_foldAscii {run : List Char} (hne : run ≠ [])
    (h : ∀ c ∈ run, c.isAlphanum = true) : IsTag (foldAscii (.ofList run)) :=
  lowercase_eq_foldAscii h ▸ isTag_lowercase hne fun c hc ↦ isTagChar_of_isAlphanum (h c hc)

namespace Pattern

/-- A letter or digit is compared as itself, capital or small. -/
theorem compared_eq_compared_iff {c d : Char} (hc : c.isAlphanum = true) :
    compared c = compared d ↔ foldChar c = foldChar d := by
  have hascii : c.toNat < 0x80 ∧ (foldChar c).toNat < 0x80 := by
    have halnum := isAlphanum_iff.1 hc
    rcases foldChar_eq_self_or c with hself | ⟨-, hlast, -⟩
    · rw [hself]
      omega
    · omega
  have hself : compared c = foldChar c := if_neg (by omega)
  rw [hself]
  by_cases hd : d.toNat = 0xFFFE ∨ d.toNat = 0xFFFF
  · -- neither what `d` is compared as nor `d` itself is in ASCII
    have hfold : foldChar d = d := (foldChar_eq_self_or d).resolve_right (by omega)
    have hcompared : compared d = Char.ofNat 0xFFFD := if_pos hd
    have hval : (Char.ofNat 0xFFFD).toNat = 0xFFFD := rfl
    rw [hcompared, hfold]
    refine iff_of_false (fun h ↦ ?_) fun h ↦ ?_
    · rw [h, hval] at hascii
      omega
    · rw [h] at hascii
      omega
  · have hcompared : compared d = foldChar d := if_neg hd
    rw [hcompared]

theorem map_compared_eq_iff {run : List Char} (h : ∀ c ∈ run, c.isAlphanum = true)
    {ds : List Char} : run.map compared = ds.map compared ↔ run.map foldChar = ds.map foldChar := by
  induction run generalizing ds with
  | nil => simp
  | cons c run ih =>
    cases ds with
    | nil => simp
    | cons d ds =>
      simp only [List.map_cons, List.cons.injEq,
        compared_eq_compared_iff (h c List.mem_cons_self),
        ih fun e he ↦ h e (List.mem_cons_of_mem c he)]

/-- **A text matches the pattern of a word just if the word stands somewhere in it**, where the
letters `A` to `Z` count as small. -/
theorem like_word_iff {run text : List Char} (hne : run ≠ [])
    (h : ∀ c ∈ run, c.isAlphanum = true) (htext : '\x00' ∉ text) :
    like text (containing (foldAscii (.ofList run))) = true ↔
      run.map foldChar <:+: text.map foldChar := by
  have htag := isTag_foldAscii hne h
  have hnul : '\x00' ∉ (foldAscii (.ofList run)).toList := fun hmem ↦
    absurd (htag.inside _ hmem) (by decide)
  have hword : (foldAscii (.ofList run)).toList.map compared = run.map compared := by
    rw [foldAscii, String.toList_ofList, String.toList_ofList, List.map_map]
    exact List.map_congr_left fun c _ ↦ compared_foldChar c
  rw [like_containing_iff hnul, htag.lowercase_eq, hword, upToNul_eq_self htext,
    List.infix_map_iff, List.infix_map_iff]
  simp only [map_compared_eq_iff h]

end Pattern

/-! ## The words of a query -/

/-- `run` is a maximal run of letters and digits in the query. -/
def IsWordOf (run : List Char) (query : String) : Prop :=
  ∃ before after, query.toList = before ++ (run ++ after) ∧
    IsRun Char.isAlphanum before run after

theorem mem_words_iff_exists {query word : String} :
    word ∈ words query ↔ ∃ run, IsWordOf run query ∧ foldAscii (.ofList run) = word := by
  rw [mem_words_iff]
  constructor
  · rintro ⟨before, run, after, heq, hrun, hword⟩
    exact ⟨run, ⟨before, after, heq, hrun⟩, hword⟩
  · rintro ⟨run, ⟨before, after, heq, hrun⟩, hword⟩
    exact ⟨before, run, after, heq, hrun, hword⟩

theorem isAlphanum_of_isBlank {c : Char} (h : isBlank c = true) : c.isAlphanum = false := by
  rw [Bool.eq_false_iff]
  intro halnum
  rw [isBlank_of_isTagChar (isTagChar_of_isAlphanum halnum)] at h
  cases h

theorem words_trimStart (cs : List Char) : words (.ofList (trimStart cs)) = words (.ofList cs) := by
  induction cs with
  | nil => rfl
  | cons c cs ih =>
    rw [trimStart, List.dropWhile_cons]
    split
    · rename_i hblank
      exact ih.trans (words_append_cons [] cs (isAlphanum_of_isBlank hblank)).symm
    · rfl

theorem words_trimEnd (cs : List Char) : words (.ofList (trimEnd cs)) = words (.ofList cs) := by
  induction cs using List.reverseRecOn with
  | nil => rfl
  | append_singleton cs c ih =>
    rw [trimEnd, List.reverse_append, List.reverse_singleton, List.singleton_append,
      List.dropWhile_cons]
    split
    · rename_i hblank
      have hlast := words_append_cons cs [] (isAlphanum_of_isBlank hblank)
      rw [hlast]
      exact ih.trans (List.append_nil _).symm
    · rw [List.reverse_cons, List.reverse_reverse]

/-- **Blanks at the ends of a query make no difference to its words.** -/
theorem words_trim (query : String) : words (trim query) = words query := by
  rw [trim, trimChars, words_trimEnd, words_trimStart, String.ofList_toList]

/-- A query that goes on after a separator has the words that it had. -/
theorem IsWordOf.append {run : List Char} {query : String} (h : IsWordOf run query)
    {sep : Char} (hsep : sep.isAlphanum = false) (more : List Char) :
    IsWordOf run (query ++ .ofList (sep :: more)) := by
  obtain ⟨before, after, heq, hrun⟩ := h
  refine ⟨before, after ++ sep :: more, by simp [heq], hrun.ne_nil, hrun.inside, hrun.left, ?_⟩
  intro c hc
  cases after with
  | nil =>
    obtain rfl : sep = c := by simpa using hc
    exact hsep
  | cons d after => exact hrun.right c hc

end Text

open Text

/-! ## Tweets with words -/

/-- The text of the tweet contains every word of the query, where the letters `A` to `Z` count as
small. -/
def StoredTweet.HasWords (t : StoredTweet) (query : String) : Prop :=
  ∃ text, t.content = some text ∧
    ∀ run, IsWordOf run query → run.map foldChar <:+: text.toList.map foldChar

/-- A tweet whose text contains a query has its words. -/
theorem StoredTweet.hasWords_of_infix {t : StoredTweet} {query text : String}
    (htext : t.content = some text) (h : query.toList <:+: text.toList) : t.HasWords query := by
  refine ⟨text, htext, ?_⟩
  rintro run ⟨before, after, heq, -⟩
  have hrun : run <:+: query.toList := ⟨before, after, by rw [heq, List.append_assoc]⟩
  exact (hrun.trans h).map foldChar

/-- A tweet with all the words of a query has any of them. -/
theorem StoredTweet.HasWords.of_more {t : StoredTweet} {query more : String}
    (h : t.HasWords more) (hwords : ∀ run, IsWordOf run query → IsWordOf run more) :
    t.HasWords query := by
  obtain ⟨text, htext, hcontains⟩ := h
  exact ⟨text, htext, fun run hrun ↦ hcontains run (hwords run hrun)⟩

namespace Store

/-- The query is for words, and the store can look for them: it does not start with a hash sign, it
has a letter or a digit, it is within the limits of the store, and no text has a NUL. -/
structure AsksForWords (s : Store) (query : String) : Prop where
  plain : (trim query).toList.head? ≠ some '#'
  word : ∃ c ∈ (trim query).toList, c.isAlphanum = true
  limits : s.WithinLimits query
  texts : ∀ t ∈ s.tweets.list, ∀ text, t.content = some text → '\x00' ∉ text.toList

variable {s : Store} {query : String}

/-- A search for words is for the tweets that have them. -/
theorem AsksForWords.matchesQuery_iff (h : s.AsksForWords query) {t : StoredTweet}
    (ht : t ∈ s.tweets.list) : s.MatchesQuery query t ↔ t.HasWords query := by
  have hwords : words query ≠ [] := by
    obtain ⟨c, hc, halnum⟩ := h.word
    exact words_trim query ▸ words_ne_nil hc halnum
  rw [MatchesQuery, Action.queriedTag?_eq_none h.plain]
  simp only [words_trim, hwords, ne_eq, not_false_eq_true, true_and, mem_words_iff_exists]
  refine exists_congr fun text ↦ and_congr_right fun htext ↦ ?_
  have hlike : ∀ run, IsWordOf run query → (Pattern.like text.toList
      (Pattern.containing (foldAscii (.ofList run))) = true ↔
        run.map foldChar <:+: text.toList.map foldChar) := by
    rintro run ⟨before, after, -, hrun⟩
    exact Pattern.like_word_iff hrun.ne_nil hrun.inside (h.texts t ht text htext)
  constructor
  · exact fun hall run hrun ↦ (hlike run hrun).1 (hall _ ⟨run, hrun, rfl⟩)
  · rintro hall _ ⟨run, hrun, rfl⟩
    exact (hlike run hrun).2 (hall run hrun)

end Store

/-! ## The pages of a search -/

namespace Social

/-- A page of a search shows a tweet. -/
def ShowsTweet (s : Social) (query : String) (viewer : Option Int) (p : Page)
    (t : StoredTweet) : Prop :=
  ∃ found, (Action.searchTweets query p viewer).answer s = .ok found ∧
    ∃ i ∈ found, s.store.Displays viewer t i

/-- What a search for words finds. -/
structure FindsWords (s : Social) : Prop where
  /-- The pages are windows on the tweets with the words, the newest first and each once.  None of
  them is a retweet record. -/
  listed : ∀ {query : String}, s.store.AsksForWords query → ∃ rows : List StoredTweet,
    (∀ t, t ∈ rows ↔ t ∈ s.store.tweets.list ∧ t.HasWords query) ∧
    (∀ t ∈ rows, t.retweetId = none) ∧
    ∀ viewer, s.Lists (Action.searchTweets query · viewer) (s.store.Displays viewer)
      (fun t u ↦ u.id < t.id) rows
  /-- A tweet with the words is on one page of each size, another one on none. -/
  found : ∀ {query : String}, s.store.AsksForWords query → ∀ (viewer : Option Int) {size : Nat},
    1 ≤ size → size ≤ 50 → ∀ t ∈ s.store.tweets.list,
      (t.HasWords query →
        ∃! n : Nat, Page.Allowed ⟨n, size⟩ ∧ s.ShowsTweet query viewer ⟨n, size⟩ t) ∧
      (¬t.HasWords query →
        ∀ n : Nat, Page.Allowed ⟨n, size⟩ → ¬s.ShowsTweet query viewer ⟨n, size⟩ t)
  /-- A tweet whose text contains the query is on one page of each size. -/
  substring : ∀ {query : String}, s.store.AsksForWords query →
    ∀ (viewer : Option Int) {size : Nat}, 1 ≤ size → size ≤ 50 →
    ∀ t ∈ s.store.tweets.list, ∀ text, t.content = some text → query.toList <:+: text.toList →
      ∃! n : Nat, Page.Allowed ⟨n, size⟩ ∧ s.ShowsTweet query viewer ⟨n, size⟩ t
  /-- What a query with more words finds, the one with fewer words finds, too. -/
  fewer : ∀ {query more : String}, s.store.AsksForWords query → s.store.AsksForWords more →
    (∀ run, IsWordOf run query → IsWordOf run more) →
    ∀ (viewer : Option Int) {size : Nat}, 1 ≤ size → size ≤ 50 → ∀ t ∈ s.store.tweets.list,
      (∃ n : Nat, Page.Allowed ⟨n, size⟩ ∧ s.ShowsTweet more viewer ⟨n, size⟩ t) →
      ∃ n : Nat, Page.Allowed ⟨n, size⟩ ∧ s.ShowsTweet query viewer ⟨n, size⟩ t
  /-- So it is when words are written after a query. -/
  added : ∀ {query : String} {sep : Char} {more : List Char}, s.store.AsksForWords query →
    sep.isAlphanum = false → s.store.AsksForWords (query ++ .ofList (sep :: more)) →
    ∀ (viewer : Option Int) {size : Nat}, 1 ≤ size → size ≤ 50 → ∀ t ∈ s.store.tweets.list,
      (∃ n : Nat, Page.Allowed ⟨n, size⟩ ∧
        s.ShowsTweet (query ++ .ofList (sep :: more)) viewer ⟨n, size⟩ t) →
      ∃ n : Nat, Page.Allowed ⟨n, size⟩ ∧ s.ShowsTweet query viewer ⟨n, size⟩ t

variable {s : Social} {query : String}

theorem lists_withWords (h : s.store.Readable) (hquery : s.store.AsksForWords query) :
    ∃ rows : List StoredTweet,
      (∀ t, t ∈ rows ↔ t ∈ s.store.tweets.list ∧ t.HasWords query) ∧
      (∀ t ∈ rows, t.retweetId = none) ∧
      ∀ viewer, s.Lists (Action.searchTweets query · viewer) (s.store.Displays viewer)
        (fun t u ↦ u.id < t.id) rows := by
  obtain ⟨rows, hrows, hlists⟩ := lists_searchTweets h hquery.limits
  have hmem : ∀ t, t ∈ rows ↔ t ∈ s.store.tweets.list ∧ t.HasWords query := fun t ↦
    (hrows t).trans (and_congr_right hquery.matchesQuery_iff)
  refine ⟨rows, hmem, fun t ht ↦ ?_, hlists⟩
  -- a retweet record has no text
  obtain ⟨hstored, text, htext, -⟩ := (hmem t).1 ht
  refine Option.eq_none_iff_forall_ne_some.2 fun r hr ↦ ?_
  rw [(h.grounded.bare t hstored r hr).1] at htext
  cases htext

/-- One item shows one tweet. -/
theorem eq_of_displays {viewer : Option Int} {t u : StoredTweet} (ht : t ∈ s.store.tweets.list)
    (hu : u ∈ s.store.tweets.list) {i : Item} (hti : s.store.Displays viewer t i)
    (hui : s.store.Displays viewer u i) : t = u := by
  obtain ⟨row, hrow, hfills⟩ := hti
  obtain ⟨row', hrow', hfills'⟩ := hui
  have hid := (Store.of_readTweet (Store.seeTweet_eq_ok_iff.1 hrow).1).1
  have hid' := (Store.of_readTweet (Store.seeTweet_eq_ok_iff.1 hrow').1).1
  rw [← hfills.tweet] at hid
  rw [← hfills'.tweet] at hid'
  exact Rows.eq_of_key_eq ht hu (hid.symm.trans hid')

/-- In a store that can be read, a search for words finds the tweets that have them. -/
theorem existsUnique_page_of_hasWords (h : s.store.Readable) (hquery : s.store.AsksForWords query)
    (viewer : Option Int) {size : Nat} (hsize : 1 ≤ size) (hmax : size ≤ 50) {t : StoredTweet}
    (ht : t ∈ s.store.tweets.list) :
    (t.HasWords query →
      ∃! n : Nat, Page.Allowed ⟨n, size⟩ ∧ s.ShowsTweet query viewer ⟨n, size⟩ t) ∧
    (¬t.HasWords query →
      ∀ n : Nat, Page.Allowed ⟨n, size⟩ → ¬s.ShowsTweet query viewer ⟨n, size⟩ t) := by
  obtain ⟨rows, hrows, -, hlists⟩ := lists_withWords h hquery
  have hpage : ∀ n : Nat, Page.Allowed ⟨n, size⟩ → (s.ShowsTweet query viewer ⟨n, size⟩ t ↔
      t ∈ (rows.drop (n * size)).take size) := fun n hn ↦
    (hlists viewer).shown_iff hn fun u hu _ hui hti ↦ eq_of_displays ((hrows u).1 hu).1 ht hui hti
  constructor
  · intro hwords
    simp only [and_congr_right (hpage _)]
    exact (hlists viewer).existsUnique_page hsize hmax ((hrows t).2 ⟨ht, hwords⟩)
  · intro hmissing n hn hshown
    have hmem := List.mem_of_mem_drop (List.mem_of_mem_take ((hpage n hn).1 hshown))
    exact hmissing ((hrows t).1 hmem).2

theorem findsWords_of_readable (h : s.store.Readable) : s.FindsWords := by
  have hfound := fun {query : String} (hquery : s.store.AsksForWords query) (viewer : Option Int)
    {size : Nat} (hsize : 1 ≤ size) (hmax : size ≤ 50) (t : StoredTweet)
    (ht : t ∈ s.store.tweets.list) ↦
    existsUnique_page_of_hasWords h hquery viewer hsize hmax ht
  have hfewer : ∀ {query more : String}, s.store.AsksForWords query →
      s.store.AsksForWords more → (∀ run, IsWordOf run query → IsWordOf run more) →
      ∀ (viewer : Option Int) {size : Nat}, 1 ≤ size → size ≤ 50 → ∀ t ∈ s.store.tweets.list,
        (∃ n : Nat, Page.Allowed ⟨n, size⟩ ∧ s.ShowsTweet more viewer ⟨n, size⟩ t) →
        ∃ n : Nat, Page.Allowed ⟨n, size⟩ ∧ s.ShowsTweet query viewer ⟨n, size⟩ t := by
    rintro query more hquery hmore hwords viewer size hsize hmax t ht ⟨n, hn, hshown⟩
    have hall : t.HasWords more := by
      by_contra hmissing
      exact (hfound hmore viewer hsize hmax t ht).2 hmissing n hn hshown
    exact ((hfound hquery viewer hsize hmax t ht).1 (hall.of_more hwords)).exists
  exact {
    listed := lists_withWords h
    found := hfound
    substring := fun hquery viewer _ hsize hmax t ht text htext hinfix ↦
      (hfound hquery viewer hsize hmax t ht).1 (StoredTweet.hasWords_of_infix htext hinfix)
    fewer := hfewer
    added := fun hquery hsep hmore ↦ hfewer hquery hmore fun _ hrun ↦ hrun.append hsep _ }

/-- **In every run a search for words finds the tweets that have all of them**, the newest first and
each once, and no retweet record. -/
theorem run_findsWords (capacity : Nat) (cached : Bool) (lifetimes : Lifetimes)
    (ops : List Operation) : ((start capacity cached lifetimes).run ops).FindsWords :=
  findsWords_of_readable (run_readable capacity cached lifetimes ops).1

/-- Ada has posted three tweets. -/
def sampleWords : Social :=
  (start 1 false ⟨0, 0⟩).run [.createUser { username := "ada", email := "ada@x.org" },
    .createTweet 1 (some "Lean and rust") none, .createTweet 1 (some "lean_too") none,
    .createTweet 1 (some "RUSTY leaning towers") none]

example : ((Action.searchTweets " rust, LEAN" ⟨0, 3⟩ none).answer sampleWords).toOption.map
    (·.map (·.tweet.id)) = some [3, 1] := by
  cbv

end Social

end Microblog
