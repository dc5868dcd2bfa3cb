import Microblog.Proofs.Timeline.Hydration
import Microblog.Social.Failure

/-!
# The requests of hydration

However long a batch is, hydrating it takes three requests to the loader at most.
`Loader.logged` writes down what a loader is asked for and what it answers, and
`hydrate_frugal` says of that log which requests are made and for which numbers, whatever
the loader answers and whichever requests fail.

* A log has one of six shapes, depending on where hydration ends (`Hydration.Course`).  Hydrating
  with a log is hydrating without one, and leaves one of these logs behind (`hydrate_course`).
* The numbers of a request are always `ascending` ones, so that none is asked for twice.
-/

set_option autoImplicit false

namespace Microblog

/-! ## Ascending numbers -/

theorem insertAscending_pairwise {n : Int} {ns : List Int} (h : ns.Pairwise (· < ·)) :
    (insertAscending n ns).Pairwise (· < ·) := by
  induction ns with
  | nil => exact List.pairwise_singleton _ n
  | cons m ms ih =>
    obtain ⟨hm, hms⟩ := List.pairwise_cons.1 h
    rw [insertAscending]
    split
    · rename_i hnm
      refine List.pairwise_cons.2 ⟨fun k hk ↦ ?_, h⟩
      rcases List.mem_cons.1 hk with rfl | hk
      · exact hnm
      · exact Int.lt_trans hnm (hm k hk)
    · split
      · exact h
      · rename_i hnm hne
        refine List.pairwise_cons.2 ⟨fun k hk ↦ ?_, ih hms⟩
        rcases mem_insertAscending.1 hk with rfl | hk
        · omega
        · exact hm k hk

theorem ascending_pairwise (ns : List Int) : (ascending ns).Pairwise (· < ·) := by
  induction ns with
  | nil => exact .nil
  | cons n ns ih => exact insertAscending_pairwise ih

/-! ## What a loader is asked for -/

/-- A request to a loader, and what it was answered. -/
inductive Loader.Request (ε : Type) where
  | users (ids : List Int) (viewer : Option Int) (answer : Except ε (List SeenUser))
  | tweets (ids : List Int) (viewer : Option Int) (answer : Except ε (List SeenTweet))

namespace Loader.Request

/-- What can be asked for. -/
inductive Subject where
  | users
  | tweets
deriving DecidableEq, Repr

variable {ε : Type}

def subject : Request ε → Subject
  | users .. => .users
  | tweets .. => .tweets

def ids : Request ε → List Int
  | users ids .. => ids
  | tweets ids .. => ids

def viewer : Request ε → Option Int
  | users _ viewer _ => viewer
  | tweets _ viewer _ => viewer

end Loader.Request

/-- A loader that writes down what it is asked for. -/
def Loader.logged {σ ε : Type} (loader : Loader (StateM σ) ε) :
    Loader (StateM (σ × List (Loader.Request ε))) ε where
  users ids viewer := fun (s, log) ↦
    let (answer, s) := (loader.users ids viewer).run s
    (answer, s, log ++ [.users ids viewer answer])
  tweets ids viewer := fun (s, log) ↦
    let (answer, s) := (loader.tweets ids viewer).run s
    (answer, s, log ++ [.tweets ids viewer answer])

namespace Hydration

variable {σ ε : Type}

/-- Somebody wrote a tweet of the batch. -/
def Wrote (batch : List Tweet) (id : Int) : Prop :=
  ∃ t ∈ batch, t.userId = id

/-- A tweet of the batch answers or repeats a tweet. -/
def RefersTo (batch : List Tweet) (id : Int) : Prop :=
  ∃ t ∈ batch, t.parentId = some id ∨ t.retweetId = some id

/-- Somebody wrote one of the tweets, and is not one of the accounts. -/
def Missing (known : List SeenUser) (rows : List SeenTweet) (id : Int) : Prop :=
  (∃ row ∈ rows, row.tweet.userId = id) ∧ ∀ u ∈ known, u.user.id ≠ id

theorem mem_authorIds_iff {batch : List Tweet} {id : Int} :
    id ∈ authorIds batch ↔ Wrote batch id := by
  rw [authorIds, mem_ascending, List.mem_map, Wrote]

theorem mem_referenceIds_iff {batch : List Tweet} {id : Int} :
    id ∈ referenceIds batch ↔ RefersTo batch id := by
  simp [referenceIds, mem_ascending, RefersTo]

theorem author?_eq_none_iff {known : List SeenUser} {id : Int} :
    author? known id = none ↔ ∀ u ∈ known, u.user.id ≠ id := by
  simp [author?, List.findRev?_eq_find?_reverse]

theorem mem_missingIds_iff {known : List SeenUser} {rows : List SeenTweet} {id : Int} :
    id ∈ missingIds known rows ↔ Missing known rows id := by
  rw [missingIds, mem_ascending, List.mem_filter, List.mem_map, Option.isNone_iff_eq_none,
    author?_eq_none_iff, Missing]

/-! ## The course of a hydration -/

/-- What is known after some accounts were asked for. -/
def joined (known : List SeenUser) : Except ε (List SeenUser) → List SeenUser
  | .ok found => known ++ found
  | .error _ => known

/-- The course of a hydration: the requests that are made, and the result. -/
inductive Course (viewer : Option Int) (batch : List Tweet) :
    List (Loader.Request ε) → Except (HydrationError ε) (List Item) → Prop
  /-- Nothing is to be hydrated. -/
  | empty (hbatch : batch = []) : Course viewer batch [] (.ok [])
  /-- The authors could not be loaded. -/
  | noAuthors (hbatch : batch ≠ []) (e : ε) :
    Course viewer batch [.users (authorIds batch) viewer (.error e)] (.error (.authors e))
  /-- The batch does not refer to tweets. -/
  | plain (hbatch : batch ≠ []) (hrefs : referenceIds batch = []) (known : List SeenUser) :
    Course viewer batch [.users (authorIds batch) viewer (.ok known)] (batch.mapM (item known []))
  /-- The tweets that the batch refers to could not be loaded. -/
  | noReferences (hbatch : batch ≠ []) (hrefs : referenceIds batch ≠ []) (known : List SeenUser)
      (e : ε) :
    Course viewer batch [.users (authorIds batch) viewer (.ok known),
      .tweets (referenceIds batch) viewer (.error e)] (.error (.references e))
  /-- The authors of these tweets are all known. -/
  | allKnown (hbatch : batch ≠ []) (hrefs : referenceIds batch ≠ []) (known : List SeenUser)
      (rows : List SeenTweet) (hmissing : missingIds known rows = []) :
    Course viewer batch [.users (authorIds batch) viewer (.ok known),
      .tweets (referenceIds batch) viewer (.ok rows)]
      (batch.mapM (item known (rows.filterMap (reference? known))))
  /-- Some of these authors had to be asked for. -/
  | someMissing (hbatch : batch ≠ []) (hrefs : referenceIds batch ≠ []) (known : List SeenUser)
      (rows : List SeenTweet) (hmissing : missingIds known rows ≠ [])
      (answer : Except ε (List SeenUser)) :
    Course viewer batch [.users (authorIds batch) viewer (.ok known),
      .tweets (referenceIds batch) viewer (.ok rows),
      .users (missingIds known rows) viewer answer]
      (batch.mapM (item (joined known answer) (rows.filterMap (reference? (joined known answer)))))

section Logging

variable {α β : Type} {loader : Loader (StateM σ) ε} {viewer : Option Int} {ids : List Int}
  {log : List (Loader.Request ε)} {P : List (Loader.Request ε) → β → Prop}

/-- `x` does what `y` does, and continues the log to one that fits the result. -/
def Logs (log : List (Loader.Request ε)) (x : StateM (σ × List (Loader.Request ε)) β)
    (y : StateM σ β) (P : List (Loader.Request ε) → β → Prop) : Prop :=
  ∀ s, ∃ log', x.run (s, log) = ((y.run s).1, (y.run s).2, log') ∧ P log' (y.run s).1

theorem Logs.pure {b : β} (h : P log b) : Logs (σ := σ) log (pure b) (pure b) P :=
  fun _ ↦ ⟨log, rfl, h⟩

theorem Logs.users {f : Except ε (List SeenUser) → StateM (σ × List (Loader.Request ε)) β}
    {g : Except ε (List SeenUser) → StateM σ β}
    (h : ∀ answer, Logs (log ++ [.users ids viewer answer]) (f answer) (g answer) P) :
    Logs log (loader.logged.users ids viewer >>= f) (loader.users ids viewer >>= g) P :=
  fun _ ↦ h _ _

theorem Logs.tweets {f : Except ε (List SeenTweet) → StateM (σ × List (Loader.Request ε)) β}
    {g : Except ε (List SeenTweet) → StateM σ β}
    (h : ∀ answer, Logs (log ++ [.tweets ids viewer answer]) (f answer) (g answer) P) :
    Logs log (loader.logged.tweets ids viewer >>= f) (loader.tweets ids viewer >>= g) P :=
  fun _ ↦ h _ _

end Logging

theorem logs_hydrate (loader : Loader (StateM σ) ε) (viewer : Option Int) (batch : List Tweet) :
    Logs [] (hydrate loader.logged viewer batch) (hydrate loader viewer batch)
      (Course viewer batch) := by
  by_cases hbatch : batch = []
  · subst hbatch
    exact .pure (.empty rfl)
  rw [hydrate, hydrate, if_neg (by simpa using hbatch), if_neg (by simpa using hbatch)]
  refine .users fun answer ↦ ?_
  cases answer with
  | error e => exact .pure (.noAuthors hbatch e)
  | ok known =>
    cases hrefs : referenceIds batch with
    | nil => exact .pure (.plain hbatch hrefs known)
    | cons id ids =>
      dsimp only
      rw [← hrefs]
      have hrefs : referenceIds batch ≠ [] := by simp [hrefs]
      refine .tweets fun answer ↦ ?_
      cases answer with
      | error e => exact .pure (.noReferences hbatch hrefs known e)
      | ok rows =>
        dsimp only [complete]
        cases hmissing : missingIds known rows with
        | nil => exact .pure (.allKnown hbatch hrefs known rows hmissing)
        | cons id ids =>
          dsimp only
          rw [← hmissing]
          have hmissing : missingIds known rows ≠ [] := by simp [hmissing]
          simp only [bind_assoc]
          refine .users fun answer ↦ ?_
          cases answer <;> exact .pure (.someMissing hbatch hrefs known rows hmissing _)

/-! ## What is asked for -/

/-- The hydration fails, and it is the server's fault. -/
def Internal (result : Except (HydrationError ε) (List Item)) : Prop :=
  ∃ e, result = .error e ∧ e.report.kind = .internal

/-- A request is made for the numbers with a property, unless there are none. -/
def AsksFor (p : Int → Prop) : Option (Loader.Request ε) → Prop
  | some r => ∀ id, id ∈ r.ids ↔ p id
  | none => ∀ id, ¬p id

/-- The requests of a hydration are those that it needs. -/
structure Frugal (viewer : Option Int) (batch : List Tweet) (log : List (Loader.Request ε))
    (result : Except (HydrationError ε) (List Item)) : Prop where
  /-- There are three at most: for accounts, for tweets, and for accounts again. -/
  order : log.map (·.subject) <+: [.users, .tweets, .users]
  /-- Each is made for the viewer, and for numbers in ascending order. -/
  proper : ∀ r ∈ log, r.viewer = viewer ∧ r.ids ≠ [] ∧ r.ids.Pairwise (· < ·)
  /-- An empty batch needs nothing. -/
  empty : log = [] ↔ batch = []
  /-- The first request is for the authors of the batch. -/
  authors : AsksFor (Wrote batch) log[0]?
  /-- If it fails, so does the hydration. -/
  authors_failed : ∀ ids e, log[0]? = some (.users ids viewer (.error e)) →
    log.length = 1 ∧ Internal result
  /-- The second one is for the tweets that the batch refers to. -/
  references : ∀ ids known, log[0]? = some (.users ids viewer (.ok known)) →
    AsksFor (RefersTo batch) log[1]?
  /-- If it fails, so does the hydration. -/
  references_failed : ∀ ids e, log[1]? = some (.tweets ids viewer (.error e)) →
    log.length = 2 ∧ Internal result
  /-- The third one is for those of their authors who were not among the first answer. -/
  missing : ∀ ids ids' known rows, log[0]? = some (.users ids viewer (.ok known)) →
    log[1]? = some (.tweets ids' viewer (.ok rows)) → AsksFor (Missing known rows) log[2]?

theorem authorIds_ne_nil {batch : List Tweet} (h : batch ≠ []) : authorIds batch ≠ [] := by
  obtain ⟨t, ht⟩ := List.exists_mem_of_ne_nil batch h
  exact List.ne_nil_of_mem (mem_authorIds ht)

theorem not_refersTo {batch : List Tweet} (h : referenceIds batch = []) (id : Int) :
    ¬RefersTo batch id := by
  rw [← mem_referenceIds_iff, h]
  exact List.not_mem_nil

theorem not_missing {known : List SeenUser} {rows : List SeenTweet} (h : missingIds known rows = [])
    (id : Int) : ¬Missing known rows id := by
  rw [← mem_missingIds_iff, h]
  exact List.not_mem_nil

theorem Course.frugal {viewer : Option Int} {batch : List Tweet} {log : List (Loader.Request ε)}
    {result : Except (HydrationError ε) (List Item)} (h : Course viewer batch log result) :
    Frugal viewer batch log result where
  order := by cases h <;> simp [Loader.Request.subject]
  proper := by
    have hauthors (hbatch : batch ≠ []) :
        viewer = viewer ∧ authorIds batch ≠ [] ∧ (authorIds batch).Pairwise (· < ·) :=
      ⟨rfl, authorIds_ne_nil hbatch, ascending_pairwise _⟩
    cases h with
    | empty => exact fun _ hr ↦ absurd hr List.not_mem_nil
    | noAuthors hbatch => exact List.forall_mem_singleton.2 (hauthors hbatch)
    | plain hbatch => exact List.forall_mem_singleton.2 (hauthors hbatch)
    | noReferences hbatch hrefs | allKnown hbatch hrefs =>
      exact List.forall_mem_cons.2 ⟨hauthors hbatch,
        List.forall_mem_singleton.2 ⟨rfl, hrefs, ascending_pairwise _⟩⟩
    | someMissing hbatch hrefs known rows hmissing =>
      exact List.forall_mem_cons.2 ⟨hauthors hbatch,
        List.forall_mem_cons.2 ⟨⟨rfl, hrefs, ascending_pairwise _⟩,
          List.forall_mem_singleton.2 ⟨rfl, hmissing, ascending_pairwise _⟩⟩⟩
  empty := by cases h <;> simp_all
  authors := by
    cases h with
    | empty hbatch => simp [AsksFor, Wrote, hbatch]
    | _ => exact fun _ ↦ mem_authorIds_iff
  authors_failed := by
    intro ids e hfailed
    cases h with
    | noAuthors hbatch e => exact ⟨rfl, _, rfl, rfl⟩
    | _ => simp at hfailed
  references := by
    intro ids known hknown
    cases h with
    | empty | noAuthors => simp at hknown
    | plain hbatch hrefs => exact not_refersTo hrefs
    | _ => exact fun _ ↦ mem_referenceIds_iff
  references_failed := by
    intro ids e hfailed
    cases h with
    | noReferences hbatch hrefs known e => exact ⟨rfl, _, rfl, rfl⟩
    | _ => simp at hfailed
  missing := by
    intro ids ids' known rows hknown hrows
    cases h with
    | allKnown hbatch hrefs known rows hmissing =>
      cases hknown
      cases hrows
      exact not_missing hmissing
    | someMissing hbatch hrefs known rows hmissing answer =>
      cases hknown
      cases hrows
      exact fun _ ↦ mem_missingIds_iff
    | _ => simp at hrows

/-- **Hydration asks for no more than it needs.**  Whatever a loader answers, and whichever requests
fail, a batch takes three requests at most: one for all its authors, one for all tweets that it
refers to, and one for the authors of these that are still missing.  Each number is asked for once,
and a request that would be for nothing is not made. -/
theorem hydrate_frugal (loader : Loader (StateM σ) ε) (viewer : Option Int) (batch : List Tweet)
    (s : σ) : ∃ log, (hydrate loader.logged viewer batch).run (s, []) =
      (((hydrate loader viewer batch).run s).1, ((hydrate loader viewer batch).run s).2, log) ∧
    Frugal viewer batch log ((hydrate loader viewer batch).run s).1 := by
  obtain ⟨log, hrun, hcourse⟩ := logs_hydrate loader viewer batch s
  exact ⟨log, hrun, hcourse.frugal⟩

-- the author of tweet 6 is not stored, and not known when that tweet is loaded
example : (((hydrate (Loader.ofRows sampleUsers sampleTweets : Loader (StateM Unit) Unit).logged
    (some 4) [sampleTweet 7 1 (some 6), sampleTweet 8 1 (some 5)]).run ((), [])).2.2.map
      fun r ↦ (r.subject, r.ids)) = [(.users, [1]), (.tweets, [5, 6]), (.users, [2])] :=
  rfl

end Hydration

end Microblog
