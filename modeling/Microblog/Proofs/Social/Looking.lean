import Microblog.Proofs.Social.Answer
import Microblog.Social.Accounts
import Microblog.Social.Inbox
import Microblog.Social.Posts
import Microblog.Social.Search

/-!
# Actions that only look at the store

Most requests leave the application as it is, and their answer depends on the store alone: whatever
is in the cache or waits in a mailbox, and whatever the time is, they answer the same
(`Action.Looks`).  Of a sequence of steps this is so when it is so of each of them.

The requests that it does not hold of are those that write to the store and the two that go through
the cache.
-/

set_option autoImplicit false

namespace Microblog

namespace Action

variable {α β : Type}

/-- An action that changes nothing, and whose answer depends on the store alone. -/
structure Looks (a : Action α) : Prop where
  after : ∀ s, a.after s = s
  answer : ∀ s s' : Social, s.store = s'.store → a.answer s = a.answer s'

namespace Looks

/-! ## Steps -/

theorem pure (x : α) : (Pure.pure x : Action α).Looks := ⟨fun _ ↦ rfl, fun _ _ _ ↦ rfl⟩

theorem fail (f : Failure) : (Action.fail f : Action α).Looks := ⟨fun _ ↦ rfl, fun _ _ _ ↦ rfl⟩

theorem ask (statement : Store → Except StoreError α) : (Action.ask statement).Looks where
  after s := after_ask s statement
  answer s s' hstore := by
    rw [Action.ask, answer_get_bind, answer_get_bind, hstore]
    cases statement s'.store <;> rfl

theorem orFail (f : Failure) (o : Option α) : (Action.orFail f o).Looks := by
  cases o with
  | none => exact fail f
  | some a => exact pure a

theorem bind {a : Action α} {f : α → Action β} (ha : a.Looks) (hf : ∀ x, (f x).Looks) :
    (a >>= f).Looks where
  after s := by
    rw [after_bind, ha.after]
    cases (a.answer s).toOption with
    | none => rfl
    | some x => exact (hf x).after s
  answer s s' hstore := by
    rw [answer_bind, answer_bind, ha.after, ha.after, ha.answer s s' hstore]
    cases a.answer s' with
    | error e => rfl
    | ok x => exact (hf x).answer s s' hstore

/-- What would come after a failure does not matter. -/
theorem fail_bind {f : Failure} {g : α → Action β} : (Action.fail f >>= g).Looks :=
  ⟨fun _ ↦ rfl, fun _ _ _ ↦ rfl⟩

/-! ## Hydration -/

theorem loader_users (ids : List Int) (viewer : Option Int) : (loader.users ids viewer).Looks where
  after _ := rfl
  answer _ _ hstore := congrArg (fun store ↦ Except.ok (Store.usersByIds ids viewer store)) hstore

theorem loader_tweets (ids : List Int) (viewer : Option Int) :
    (loader.tweets ids viewer).Looks where
  after _ := rfl
  answer _ _ hstore := congrArg (fun store ↦ Except.ok (Store.tweetsByIds ids viewer store)) hstore

theorem complete (viewer : Option Int) (known : List SeenUser) (rows : List SeenTweet) :
    (Hydration.complete loader viewer known rows).Looks := by
  rw [Hydration.complete]
  split
  · exact pure _
  · refine (loader_users _ _).bind fun found ↦ ?_
    split <;> exact pure _

theorem hydrate (viewer : Option Int) (batch : List Tweet) :
    (Microblog.hydrate loader viewer batch).Looks := by
  rw [Microblog.hydrate]
  split
  · exact pure _
  · refine (loader_users _ _).bind fun known ↦ ?_
    split
    · exact pure _
    · split
      · exact pure _
      · refine (loader_tweets _ _).bind fun rows ↦ ?_
        split
        · exact pure _
        · exact (complete _ _ _).bind fun _ ↦ pure _

theorem items (viewer : Option Int) (rows : List SeenTweet) :
    (Action.items viewer rows).Looks := by
  refine (hydrate _ _).bind fun found ↦ ?_
  split
  · exact pure _
  · exact fail _

/-! ## Requests -/

theorem requireTweet (id : Int) : (Action.requireTweet id).Looks :=
  (ask _).bind fun _ ↦ orFail _ _

theorem requireActor (id : Int) : (Action.requireActor id).Looks :=
  (ask _).bind fun _ ↦ (orFail _ _).bind fun _ ↦ pure _

theorem resolve (id : Int) : (Action.resolve id).Looks := by
  refine (requireTweet id).bind fun t ↦ ?_
  split
  · exact requireTweet _
  · exact pure _

theorem getUser (id : Int) (viewer : Option Int) : (Action.getUser id viewer).Looks :=
  (ask _).bind fun _ ↦ orFail _ _

theorem followers (user : Int) (page : Page) (viewer : Option Int) :
    (Action.followers user page viewer).Looks :=
  ask _

theorem following (user : Int) (page : Page) (viewer : Option Int) :
    (Action.following user page viewer).Looks :=
  ask _

theorem suggested (page : Page) (viewer : Option Int) : (Action.suggested page viewer).Looks := by
  cases viewer with
  | some viewer => exact ask _
  | none => exact (ask _).bind fun _ ↦ pure _

/-- The feed of everybody goes through the cache only for those who are no viewer. -/
theorem globalFeed (page : Page) (viewer : Int) : (Action.globalFeed page (some viewer)).Looks :=
  (ask _).bind fun _ ↦ items _ _

theorem followingFeed (viewer : Int) (page : Page) : (Action.followingFeed viewer page).Looks :=
  (ask _).bind fun _ ↦ items _ _

theorem userFeed (user : Int) (page : Page) (viewer : Option Int) :
    (Action.userFeed user page viewer).Looks :=
  (ask _).bind fun _ ↦ items _ _

theorem getTweet (tweet : Int) (viewer : Option Int) : (Action.getTweet tweet viewer).Looks :=
  (ask _).bind fun _ ↦ (orFail _ _).bind fun _ ↦ (items _ _).bind fun _ ↦ orFail _ _

theorem replies (tweet : Int) (page : Page) (viewer : Option Int) :
    (Action.replies tweet page viewer).Looks :=
  (ask _).bind fun _ ↦ items _ _

theorem searchTweets (query : String) (page : Page) (viewer : Option Int) :
    (Action.searchTweets query page viewer).Looks := by
  rw [Action.searchTweets]
  split
  · split
    · exact pure _
    · exact (ask _).bind fun _ ↦ items _ _
  · split
    · exact pure _
    · exact (ask _).bind fun _ ↦ items _ _

theorem searchUsers (query : String) (page : Page) (viewer : Option Int) :
    (Action.searchUsers query page viewer).Looks := by
  rw [Action.searchUsers]
  split
  · exact pure _
  · exact ask _

theorem searchTags (query : String) (limit : Int) : (Action.searchTags query limit).Looks := by
  rw [Action.searchTags]
  split
  · exact pure _
  · exact ask _

theorem notifications (user : Int) (page : Page) : (Action.notifications user page).Looks := ask _

theorem unreadCount (user : Int) : (Action.unreadCount user).Looks := ask _

end Looks

/-- The trending hashtags depend on the time as well, but computing them changes nothing, either. -/
theorem after_freshTrending (limit : Int) (s : Social) : (freshTrending limit).after s = s := by
  rw [freshTrending, after_get_bind, after_bind, after_ask]
  cases ((ask _).answer s).toOption with
  | none => rfl
  | some found =>
    cases found with
    | nil => exact after_ask s _
    | cons tag found => rfl

end Action

end Microblog
