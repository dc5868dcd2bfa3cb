import Microblog.Proofs.Social.Indexing
import Microblog.Proofs.Store.Linked
import Microblog.Proofs.Text.Hashtag

/-!
# The names of hashtags

A hashtag is stored when a tweet is posted that has it in its text, and stays.  So what holds of all
hashtags in the texts that were posted holds of the names of all hashtags that are stored
(`Social.named_run`); above all, they are tags in lowercase (`Social.run_namedTags`).

A statement adds a hashtag only by giving a number (`Store.Changes.hashtags_eq`), and which
operations give numbers of hashtags is known from the index.  So only posting has to be looked at
once more.
-/

set_option autoImplicit false

namespace Microblog

open Text

/-- The hashtags that an operation posts. -/
def Operation.tags : Operation → List String
  | .createTweet _ content _ => ((tidy content).map hashtags).getD []
  | _ => []

namespace Store

variable {now : Nat} {s s' : Store}

/-- The names of all hashtags satisfy `P`. -/
def Named (P : String → Prop) (s : Store) : Prop := ∀ tag ∈ s.hashtags.list, P tag.name

theorem Change.hashtags_eq_or (h : Change now s s') :
    s.counters.hashtags < s'.counters.hashtags ∨
      s'.counters.hashtags = s.counters.hashtags ∧ s'.hashtags = s.hashtags := by
  have hnext : s.counters.hashtags < s.counters.hashtags + 1 := by omega
  rcases h.aside_or with haside | ⟨_, _, hrun⟩ | ⟨_, _, hrun⟩ | ⟨_, _, hrun⟩ | ⟨_, _, _, hrun⟩
  · exact .inr ⟨haside.lastHashtag, haside.hashtags⟩
  · obtain ⟨_, _, -, -, -, -, -, -, rfl⟩ := of_createNotification hrun
    exact .inr ⟨rfl, rfl⟩
  · obtain ⟨-, rfl⟩ := of_markRead hrun
    exact .inr ⟨rfl, rfl⟩
  · rcases of_addTag hrun with rfl | ⟨_, _, -, -, -, rfl⟩
    · exact .inl hnext
    · exact .inl hnext
  · rcases of_linkTag hrun with rfl | ⟨_, _, -, -, -, -, -, rfl⟩
    · exact .inr ⟨rfl, rfl⟩
    · exact .inr ⟨rfl, rfl⟩

/-- **Where no number of a hashtag is given, no hashtag is added.** -/
theorem Changes.hashtags_eq (h : Changes now s s')
    (hcounter : s'.counters.hashtags = s.counters.hashtags) : s'.hashtags = s.hashtags := by
  have hboth : s.counters.hashtags ≤ s'.counters.hashtags ∧
      (s'.counters.hashtags = s.counters.hashtags → s'.hashtags = s.hashtags) := by
    refine h.keeps (P := fun s' ↦ s.counters.hashtags ≤ s'.counters.hashtags ∧
      (s'.counters.hashtags = s.counters.hashtags → s'.hashtags = s.hashtags))
      (fun {s₁ s₂} hchange ⟨hle, heq⟩ ↦ ?_) ⟨Int.le_refl _, fun _ ↦ rfl⟩
    rcases hchange.hashtags_eq_or with hlt | ⟨hsame, htable⟩
    · exact ⟨by omega, fun hcounter ↦ by omega⟩
    · exact ⟨by omega, fun hcounter ↦ htable.trans (heq (hsame.symm.trans hcounter))⟩
  exact hboth.2 hcounter

end Store

namespace Action

variable {P : String → Prop} {s : Social}

/-- Recording a hashtag adds no other one. -/
theorem named_after_recordTag (hnamed : s.store.Named P) {tag : String} (htag : P tag)
    (tweet : Int) : ((recordTag tweet tag).after s).store.Named P := by
  have htable : ((recordTag tweet tag).after s).store.hashtags =
      ((Action.change fun now ↦ Store.addTag now tag).after s).store.hashtags :=
    part_after_recordTag (·.hashtags) (fun hrun ↦ by
      rcases Store.of_linkTag hrun with rfl | ⟨_, _, -, -, -, -, -, rfl⟩ <;> rfl) tweet tag s
  rw [Store.Named, htable]
  rcases change_error_or_ok s fun now ↦ Store.addTag now tag with
    ⟨-, -, hafter⟩ | ⟨_, _, hrun, -, hafter⟩
  · rw [hafter]
    exact hnamed
  · rw [hafter]
    rcases Store.of_addTag hrun with rfl | ⟨_, _, -, hlist, -, rfl⟩
    · exact hnamed
    · intro row hrow
      rcases List.mem_append.1 (hlist ▸ hrow) with hrow | hrow
      · exact hnamed row hrow
      · rw [List.mem_singleton.1 hrow]
        exact htag

theorem named_after_recordTags (tweet : Int) {tags : List String} (htags : ∀ tag ∈ tags, P tag)
    (hnamed : s.store.Named P) : ((recordTags tweet tags).after s).store.Named P := by
  induction tags generalizing s with
  | nil => exact hnamed
  | cons tag tags ih =>
    rw [after_recordTags_cons]
    exact ih (fun tag' htag' ↦ htags tag' (List.mem_cons_of_mem tag htag'))
      (named_after_recordTag hnamed (htags tag List.mem_cons_self) tweet)

end Action

namespace Social

variable {P : String → Prop} {s : Social}

theorem Told.hashtags {new : NewNotification} {s' : Social} (h : s.Told new s') :
    s'.store.hashtags = s.store.hashtags := by
  cases h <;> rfl

/-- **An operation adds hashtags only with the names that it posts.** -/
theorem named_perform (h : s.store.Orderly) (op : Operation) (hop : ∀ tag ∈ op.tags, P tag)
    (hnamed : s.store.Named P) : (s.perform op).store.Named P := by
  -- only posting gives numbers of hashtags
  have hother : op.tagged = 0 → (s.perform op).store.Named P := by
    intro hnone
    have htags := tags_perform h op
    have hless := htags.less
    rw [hnone] at hless
    have hcounter : (s.perform op).store.counters.hashtags = s.store.counters.hashtags :=
      Int.le_antisymm (by omega) htags.more
    rw [Store.Named, (changes_perform s op).hashtags_eq hcounter]
    exact hnamed
  cases op with
  | createTweet user content parent =>
    rcases Action.Ends.createTweet h user content parent with ⟨f, -, hafter, -⟩ |
      ⟨i, -, text, t, store, s₁, htext, hrun, -, htold, -, hafter⟩
    · have hsame : s.perform (.createTweet user content parent) = s := hafter
      rw [hsame]
      exact hnamed
    · obtain ⟨tweets, -, hstore⟩ := Store.of_createTweet hrun
      have hposted : store.hashtags = s.store.hashtags := by
        rw [hstore]
        cases parent <;> rfl
      have hfirst : s₁.store.hashtags = store.hashtags := by
        cases parent with
        | none =>
          obtain rfl : s₁ = { s with store } := htold
          rfl
        | some p =>
          obtain ⟨row, -, htold⟩ := htold
          exact htold.hashtags
      have hafter : s.perform (.createTweet user content parent) = _ := hafter
      rw [Operation.tags, htext] at hop
      rw [hafter]
      refine Action.named_after_recordTags t.id hop ?_
      rw [Store.Named, hfirst, hposted]
      exact hnamed
  | _ => exact hother rfl

/-- What holds of all hashtags that are posted holds of the names of all hashtags. -/
theorem named_run (h : s.store.Orderly) (hnamed : s.store.Named P) {ops : List Operation}
    (hops : ∀ op ∈ ops, ∀ tag ∈ op.tags, P tag) : (s.run ops).store.Named P := by
  induction ops generalizing s with
  | nil => exact hnamed
  | cons op ops ih =>
    exact ih (orderly_perform h op) (named_perform h op (hops op List.mem_cons_self) hnamed)
      fun op' hop' ↦ hops op' (List.mem_cons_of_mem op hop')

theorem isTag_of_mem_tags {op : Operation} {tag : String} (h : tag ∈ op.tags) : IsTag tag := by
  cases op with
  | createTweet user content parent =>
    rw [Operation.tags] at h
    cases htext : tidy content with
    | none =>
      rw [htext] at h
      cases h
    | some text =>
      rw [htext] at h
      exact isTag_of_mem_hashtags h
  | _ => cases h

/-- **In every run the names of hashtags are tags in lowercase.** -/
theorem run_namedTags (capacity : Nat) (cached : Bool) (lifetimes : Lifetimes)
    (ops : List Operation) : ((start capacity cached lifetimes).run ops).store.Named IsTag :=
  named_run orderly_migrated (fun _ htag ↦ absurd htag List.not_mem_nil)
    fun _ _ _ htag ↦ isTag_of_mem_tags htag

end Social

end Microblog
