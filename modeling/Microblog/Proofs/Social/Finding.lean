import Microblog.Proofs.Social.Paging
import Microblog.Proofs.Text.Pattern

/-!
# Finding accounts

A search for accounts finds those whose username or display name contains the term, in lowercase and
as characters are compared, and no others.  Each of them is on one page of every size, and on one
only (`Social.run_accountsFound`).

The term is lowercased by the rules of Unicode, the names are compared by those of ASCII.  Where the
two agree on a term, every name that contains it as it is written is found.  They do not agree on a
capital letter outside of ASCII, which no name can match (`Social.search_misses_capital`).
-/

set_option autoImplicit false

namespace Microblog

open Text

/-- A text contains a term as the store compares them: the text counts up to its first NUL. -/
def Text.Pattern.Contains (text term : String) : Prop :=
  (lowercase term).toList.map compared <:+: (upToNul text.toList).map compared

/-- The username or the display name of an account contains a term. -/
def StoredUser.Contains (u : StoredUser) (term : String) : Prop :=
  Pattern.Contains u.username term ∨ Pattern.Contains (u.displayName.getD "") term

/-- The username or the display name of an account contains a term as it is written. -/
def StoredUser.ContainsAsWritten (u : StoredUser) (term : String) : Prop :=
  term.toList <:+: Pattern.upToNul u.username.toList ∨
    term.toList <:+: Pattern.upToNul (u.displayName.getD "").toList

instance (text term : String) : Decidable (Pattern.Contains text term) :=
  inferInstanceAs (Decidable (_ <:+: _))

instance (u : StoredUser) (term : String) : Decidable (u.Contains term) :=
  inferInstanceAs (Decidable (_ ∨ _))

instance (u : StoredUser) (term : String) : Decidable (u.ContainsAsWritten term) :=
  inferInstanceAs (Decidable (_ ∨ _))

theorem StoredUser.matchesPattern_iff {u : StoredUser} {term : String}
    (h : '\x00' ∉ term.toList) :
    u.matchesPattern (Pattern.containing term) = true ↔ u.Contains term := by
  rw [matchesPattern, Bool.or_eq_true, Pattern.like_containing_iff h, Pattern.like_containing_iff h]
  rfl

/-- What is contained as it is written is contained, if the term is lowercased as it is compared. -/
theorem StoredUser.ContainsAsWritten.contains {u : StoredUser} {term : String}
    (h : u.ContainsAsWritten term) (hnul : '\x00' ∉ term.toList)
    (hfold : lowercase term = foldAscii term) : u.Contains term := by
  rw [← matchesPattern_iff hnul, matchesPattern, Bool.or_eq_true]
  exact h.imp (Pattern.like_of_infix hnul hfold) (Pattern.like_of_infix hnul hfold)

theorem Text.Pattern.Contains.mem {text term : String} (h : Pattern.Contains text term) {m : Char}
    (hm : m ∈ Pattern.marks) (hterm : m ∈ term.toList) : m ∈ text.toList :=
  (List.takeWhile_sublist _).subset (Pattern.mem_of_infix hm hterm h)

namespace Social

/-- An account is on a page of a search. -/
def OnPage (s : Social) (query : String) (viewer : Option Int) (p : Page) (u : StoredUser) : Prop :=
  ∃ found, (Action.searchUsers query p viewer).answer s = .ok found ∧
    ∃ a ∈ found, s.store.see viewer u = .ok a

/-- What a search for accounts finds. -/
structure AccountsFound (s : Social) : Prop where
  /-- An account that contains the term is on one page of each size, another one on none. -/
  found : ∀ {query : String}, trim query ≠ "" → '\x00' ∉ (trim query).toList →
    s.store.WithinUserLimits query → ∀ (viewer : Option Int) {size : Nat}, 1 ≤ size → size ≤ 50 →
    ∀ u ∈ s.store.users.list,
      (u.Contains (trim query) →
        ∃! n : Nat, Page.Allowed ⟨n, size⟩ ∧ s.OnPage query viewer ⟨n, size⟩ u) ∧
      (¬u.Contains (trim query) →
        ∀ n : Nat, Page.Allowed ⟨n, size⟩ → ¬s.OnPage query viewer ⟨n, size⟩ u)
  /-- An account that contains the term as it is written is on one page of each size, if the term
  is lowercased as it is compared. -/
  written : ∀ {query : String}, trim query ≠ "" → '\x00' ∉ (trim query).toList →
    s.store.WithinUserLimits query → lowercase (trim query) = foldAscii (trim query) →
    ∀ (viewer : Option Int) {size : Nat}, 1 ≤ size → size ≤ 50 →
    ∀ u ∈ s.store.users.list, u.ContainsAsWritten (trim query) →
      ∃! n : Nat, Page.Allowed ⟨n, size⟩ ∧ s.OnPage query viewer ⟨n, size⟩ u
  /-- A percent sign, an underscore or a backslash in the term stands for itself: an account that
  contains the term has it in one of its names. -/
  literal : ∀ u ∈ s.store.users.list, ∀ {term : String}, u.Contains term →
    ∀ m ∈ Pattern.marks, m ∈ term.toList →
      m ∈ u.username.toList ∨ m ∈ (u.displayName.getD "").toList

variable {s : Social}

/-- An account is on a page just if its row is in the window of the page. -/
theorem onPage_iff {query : String} {viewer : Option Int} {rows : List StoredUser}
    (hrows : ∀ u ∈ rows, u ∈ s.store.users.list)
    (h : s.Lists (Action.searchUsers query · viewer) (s.store.see viewer · = .ok ·)
      StoredUser.Outranks rows) {n size : Nat} (hallowed : Page.Allowed ⟨n, size⟩)
    {u : StoredUser} (hu : u ∈ s.store.users.list) :
    s.OnPage query viewer ⟨n, size⟩ u ↔ u ∈ (rows.drop (n * size)).take size := by
  -- one account is shown for one row only
  refine h.shown_iff hallowed fun v hv a hsee hsee' ↦ ?_
  exact Rows.eq_of_key_eq (hrows v hv) hu
    ((Store.id_of_see hsee).symm.trans (Store.id_of_see hsee'))

/-- In a store that can be read, a search finds the accounts that contain its term. -/
theorem existsUnique_page_of_contains (h : s.store.Readable) {query : String}
    (hblank : trim query ≠ "") (hnul : '\x00' ∉ (trim query).toList)
    (hlimits : s.store.WithinUserLimits query) (viewer : Option Int) {size : Nat}
    (hsize : 1 ≤ size) (hmax : size ≤ 50) {u : StoredUser} (hu : u ∈ s.store.users.list) :
    (u.Contains (trim query) →
      ∃! n : Nat, Page.Allowed ⟨n, size⟩ ∧ s.OnPage query viewer ⟨n, size⟩ u) ∧
    (¬u.Contains (trim query) →
      ∀ n : Nat, Page.Allowed ⟨n, size⟩ → ¬s.OnPage query viewer ⟨n, size⟩ u) := by
  obtain ⟨rows, hrows, hlists⟩ := lists_searchUsers h hlimits
  have hstored : ∀ v ∈ rows, v ∈ s.store.users.list := fun v hv ↦ ((hrows v).1 hv).1
  have hlisted : u ∈ rows ↔ u.Contains (trim query) := by
    rw [hrows, and_iff_right hu, and_iff_right hblank, StoredUser.matchesPattern_iff hnul]
  have hpage : ∀ n : Nat, Page.Allowed ⟨n, size⟩ → (s.OnPage query viewer ⟨n, size⟩ u ↔
      u ∈ (rows.drop (n * size)).take size) := fun n hn ↦
    onPage_iff hstored (hlists viewer) hn hu
  constructor
  · intro hcontains
    simp only [and_congr_right (hpage _)]
    exact (hlists viewer).existsUnique_page hsize hmax (hlisted.2 hcontains)
  · intro hmissing n hn hon
    have hmem := (hpage n hn).1 hon
    exact hmissing (hlisted.1 (List.mem_of_mem_drop (List.mem_of_mem_take hmem)))

/-- **In every run a search for accounts finds those that contain its term**, as the store compares
them, each on one page. -/
theorem run_accountsFound (capacity : Nat) (cached : Bool) (lifetimes : Lifetimes)
    (ops : List Operation) : ((start capacity cached lifetimes).run ops).AccountsFound := by
  have h := (run_readable capacity cached lifetimes ops).1
  constructor
  · intro query hblank hnul hlimits viewer size hsize hmax u hu
    exact existsUnique_page_of_contains h hblank hnul hlimits viewer hsize hmax hu
  · intro query hblank hnul hlimits hfold viewer size hsize hmax u hu hwritten
    exact (existsUnique_page_of_contains h hblank hnul hlimits viewer hsize hmax hu).1
      (hwritten.contains hnul hfold)
  · intro u hu term hcontains m hm hterm
    exact hcontains.imp (·.mem hm hterm) (·.mem hm hterm)

/-- Somebody has a display name that begins with a capital letter outside of ASCII. -/
def sampleNames : Social :=
  (start 1 false ⟨0, 0⟩).run
    [.createUser { username := "elodie", email := "e@x.org", displayName := some "Élodie" }]

/-- The term is in the display name as it is written, and yet no page of the search shows that
account: the term is lowercased, and the letter in the name is not. -/
theorem search_misses_capital : ∃ u ∈ sampleNames.store.users.list,
    u.ContainsAsWritten (trim "É") ∧
    ∀ n : Nat, Page.Allowed ⟨n, 20⟩ → ¬sampleNames.OnPage "É" none ⟨n, 20⟩ u := by
  obtain ⟨u, hu, hwritten, hmissing⟩ : ∃ u ∈ sampleNames.store.users.list,
      u.ContainsAsWritten (trim "É") ∧ ¬u.Contains (trim "É") := by decide +kernel
  have hreadable := (run_readable 1 false ⟨0, 0⟩
    [.createUser { username := "elodie", email := "e@x.org", displayName := some "Élodie" }]).1
  have hlimits : sampleNames.store.WithinUserLimits "É" := .inl (by decide +kernel)
  refine ⟨u, hu, hwritten, (existsUnique_page_of_contains hreadable ?_ ?_ hlimits none
    (by decide) (by decide) hu).2 hmissing⟩
  · decide +kernel
  · decide +kernel

end Social

end Microblog
