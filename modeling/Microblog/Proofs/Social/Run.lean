import Microblog.Proofs.Live.Broker
import Microblog.Proofs.Social.Action

/-!
# Runs of the application

A run starts with a store that has just been migrated and goes on with any operations in any order:
registrations, requests of any kind with any arguments, whether they succeed or not, streams that
are opened, read and closed, and time that passes.

* `Social.start` is where a run begins; `Social.new_eq` says that the application starts there.
* `Social.run` is where it leads.
* `Social.run_keeps` is how anything is shown about the store of a run: what the store has at the
  start and every `Store.Change` keeps, it has after every run.
-/

set_option autoImplicit false

namespace Microblog

/-- What may happen to the application. -/
inductive Operation where
  /-- Somebody registers. -/
  | createUser (new : NewUser)
  | createTweet (user : Int) (content : Option String) (parent : Option Int)
  | deleteTweet (user tweet : Int)
  | like (user tweet : Int)
  | unlike (user tweet : Int)
  | retweet (user tweet : Int)
  | undoRetweet (user tweet : Int)
  | follow (follower target : Int)
  | unfollow (follower target : Int)
  | updateProfile (user : Int) (displayName bio : Option String)
  | getUser (user : Int) (viewer : Option Int)
  | followers (user : Int) (page : Page) (viewer : Option Int)
  | following (user : Int) (page : Page) (viewer : Option Int)
  | suggested (page : Page) (viewer : Option Int)
  | globalFeed (page : Page) (viewer : Option Int)
  | followingFeed (viewer : Int) (page : Page)
  | userFeed (user : Int) (page : Page) (viewer : Option Int)
  | getTweet (tweet : Int) (viewer : Option Int)
  | replies (tweet : Int) (page : Page) (viewer : Option Int)
  | searchTweets (query : String) (page : Page) (viewer : Option Int)
  | searchUsers (query : String) (page : Page) (viewer : Option Int)
  | searchTags (query : String) (limit : Int)
  | trending (limit : Int)
  | notifications (user : Int) (page : Page)
  | unreadCount (user : Int)
  | markRead (user : Int)
  /-- A stream of notifications is opened. -/
  | subscribe (recipient : Int)
  /-- The next notification of a stream is taken. -/
  | receive (mailbox : Nat)
  | unsubscribe (mailbox : Nat)
  | drop (mailbox : Nat)
  /-- Time passes. -/
  | advance (ns : Nat)

/-- Whether an operation is a request that only looks. -/
def Operation.looks : Operation → Bool
  | .getUser .. | .followers .. | .following .. | .suggested .. | .followingFeed .. | .userFeed ..
  | .getTweet .. | .replies .. | .searchTweets .. | .searchUsers .. | .searchTags ..
  | .notifications .. | .unreadCount .. => true
  | .globalFeed _ viewer => viewer.isSome
  | _ => false

namespace Social

/-! ## Operations -/

/-- The application after something has happened to its broker. -/
def stream (e : Broker.Event) (s : Social) : Social := { s with broker := s.broker.step e }

/-- The application after an operation. -/
def perform (s : Social) : Operation → Social
  | .createUser new => (Action.change fun now ↦ Store.createUser now new).after s
  | .createTweet user content parent => (Action.createTweet user content parent).after s
  | .deleteTweet user tweet => (Action.deleteTweet user tweet).after s
  | .like user tweet => (Action.like user tweet).after s
  | .unlike user tweet => (Action.unlike user tweet).after s
  | .retweet user tweet => (Action.retweet user tweet).after s
  | .undoRetweet user tweet => (Action.undoRetweet user tweet).after s
  | .follow follower target => (Action.follow follower target).after s
  | .unfollow follower target => (Action.unfollow follower target).after s
  | .updateProfile user displayName bio => (Action.updateProfile user displayName bio).after s
  | .getUser user viewer => (Action.getUser user viewer).after s
  | .followers user page viewer => (Action.followers user page viewer).after s
  | .following user page viewer => (Action.following user page viewer).after s
  | .suggested page viewer => (Action.suggested page viewer).after s
  | .globalFeed page viewer => (Action.globalFeed page viewer).after s
  | .followingFeed viewer page => (Action.followingFeed viewer page).after s
  | .userFeed user page viewer => (Action.userFeed user page viewer).after s
  | .getTweet tweet viewer => (Action.getTweet tweet viewer).after s
  | .replies tweet page viewer => (Action.replies tweet page viewer).after s
  | .searchTweets query page viewer => (Action.searchTweets query page viewer).after s
  | .searchUsers query page viewer => (Action.searchUsers query page viewer).after s
  | .searchTags query limit => (Action.searchTags query limit).after s
  | .trending limit => (Action.trending limit).after s
  | .notifications user page => (Action.notifications user page).after s
  | .unreadCount user => (Action.unreadCount user).after s
  | .markRead user => (Action.markRead user).after s
  | .subscribe recipient => s.stream (.subscribe recipient)
  | .receive mailbox => s.stream (.receive mailbox)
  | .unsubscribe mailbox => s.stream (.unsubscribe mailbox)
  | .drop mailbox => s.stream (.drop mailbox)
  | .advance ns => { s with now := s.now + ns }

/-- One state leads to another: time has not gone back, and the store was changed statement by
statement, or not at all. -/
structure Evolved (s s' : Social) : Prop where
  now_le : s.now ≤ s'.now
  store : Store.Changes s.now s.store s'.store

theorem Evolved.of_evolves {α : Type} {a : Action α} {s : Social} (h : a.Evolves s) :
    s.Evolved (a.after s) :=
  ⟨Nat.le_of_eq h.now.symm, h.store⟩

/-- Looking changes nothing. -/
theorem perform_of_looks {op : Operation} (h : op.looks = true) (s : Social) :
    s.perform op = s := by
  cases op with
  | getUser user viewer => exact (Action.Looks.getUser user viewer).after s
  | followers user page viewer => exact (Action.Looks.followers user page viewer).after s
  | following user page viewer => exact (Action.Looks.following user page viewer).after s
  | suggested page viewer => exact (Action.Looks.suggested page viewer).after s
  | globalFeed page viewer =>
    obtain ⟨v, rfl⟩ := Option.isSome_iff_exists.1 h
    exact (Action.Looks.globalFeed page v).after s
  | followingFeed viewer page => exact (Action.Looks.followingFeed viewer page).after s
  | userFeed user page viewer => exact (Action.Looks.userFeed user page viewer).after s
  | getTweet tweet viewer => exact (Action.Looks.getTweet tweet viewer).after s
  | replies tweet page viewer => exact (Action.Looks.replies tweet page viewer).after s
  | searchTweets q page viewer => exact (Action.Looks.searchTweets q page viewer).after s
  | searchUsers q page viewer => exact (Action.Looks.searchUsers q page viewer).after s
  | searchTags q limit => exact (Action.Looks.searchTags q limit).after s
  | notifications user page => exact (Action.Looks.notifications user page).after s
  | unreadCount user => exact (Action.Looks.unreadCount user).after s
  | _ => cases h

/-- Every operation leads from one state to another. -/
theorem evolved_perform (s : Social) (op : Operation) : s.Evolved (s.perform op) := by
  cases hlooks : op.looks with
  | true =>
    rw [perform_of_looks hlooks]
    exact ⟨Nat.le_refl _, .refl⟩
  | false =>
    cases op with
    | createUser new => exact .of_evolves (.createUser new)
    | createTweet user content parent => exact .of_evolves (.createTweet user content parent)
    | deleteTweet user tweet => exact .of_evolves (.deleteTweet user tweet)
    | like user tweet => exact .of_evolves (.like user tweet)
    | unlike user tweet => exact .of_evolves (.unlike user tweet)
    | retweet user tweet => exact .of_evolves (.retweet user tweet)
    | undoRetweet user tweet => exact .of_evolves (.undoRetweet user tweet)
    | follow follower target => exact .of_evolves (.follow follower target)
    | unfollow follower target => exact .of_evolves (.unfollow follower target)
    | updateProfile user name bio => exact .of_evolves (.updateProfile user name bio)
    | markRead user => exact .of_evolves (.markRead user)
    | globalFeed page viewer => exact .of_evolves ((Action.Keeps.globalFeed page viewer).evolves s)
    | trending limit => exact .of_evolves ((Action.Keeps.trending limit).evolves s)
    | subscribe _ | receive _ | unsubscribe _ | drop _ => exact ⟨Nat.le_refl _, .refl⟩
    | advance ns => exact ⟨Nat.le_add_right _ _, .refl⟩
    | _ => cases hlooks

/-- An operation changes the store statement by statement, or not at all. -/
theorem changes_perform (s : Social) (op : Operation) :
    Store.Changes s.now s.store (s.perform op).store :=
  (s.evolved_perform op).store

/-! ## Runs -/

/-- The application after some operations, one after the other. -/
def run (s : Social) (ops : List Operation) : Social := ops.foldl perform s

theorem run_append (s : Social) (ops ops' : List Operation) :
    s.run (ops ++ ops') = (s.run ops).run ops' :=
  List.foldl_append

/-- Time never goes back. -/
theorem now_le_run (s : Social) (ops : List Operation) : s.now ≤ (s.run ops).now := by
  induction ops generalizing s with
  | nil => exact Nat.le_refl _
  | cons op ops ih => exact Nat.le_trans (s.evolved_perform op).now_le (ih _)

/-- The application at a moment of a run: at its start, or after some of the operations. -/
def Moment (start : Social) (ops : List Operation) (p : Social) : Prop :=
  ∃ done, done <+: ops ∧ p = start.run done

theorem Moment.last (s : Social) (ops : List Operation) : Moment s ops (s.run ops) :=
  ⟨ops, List.prefix_rfl, rfl⟩

theorem Moment.now_le {start p : Social} {ops : List Operation} (h : Moment start ops p) :
    p.now ≤ (start.run ops).now := by
  obtain ⟨done, ⟨rest, rfl⟩, rfl⟩ := h
  rw [run_append]
  exact now_le_run _ rest

/-- What every statement keeps, every run keeps. -/
theorem run_keeps {P : Store → Prop} (hP : ∀ {now s s'}, Store.Change now s s' → P s → P s')
    (s : Social) (ops : List Operation) (hs : P s.store) : P (s.run ops).store := by
  induction ops generalizing s with
  | nil => exact hs
  | cons op ops ih => exact ih (s.perform op) ((changes_perform s op).keeps hP hs)

/-- Operations that use one number up and can be done again afterwards can use up all numbers. -/
theorem exists_run_of_rounds {P : Social → Prop} {number : Social → Int} {last : Int}
    (hround : ∀ s, P s → number s < last →
      ∃ ops, P (s.run ops) ∧ number (s.run ops) = number s + 1)
    {s : Social} (hs : P s) (hle : number s ≤ last) :
    ∃ ops, P (s.run ops) ∧ number (s.run ops) = last := by
  obtain ⟨left, hleft⟩ := Int.le.dest hle
  induction left generalizing s with
  | zero => exact ⟨[], hs, by rw [← hleft, Int.natCast_zero, Int.add_zero]; rfl⟩
  | succ left ih =>
    obtain ⟨ops, hops, hnumber⟩ := hround s hs (by omega)
    obtain ⟨ops', hops', hlast⟩ := ih hops (by omega) (by omega)
    refine ⟨ops ++ ops', ?_⟩
    rw [run_append]
    exact ⟨hops', hlast⟩

end Social

/-! ## Where a run begins -/

/-- A store that was just migrated: all tables and indexes are there, and no rows. -/
def Store.migrated : Store :=
  { Store.empty with
    schema := ⟨Table.all, [.authors, .parents, .oneRetweet, .followed, .recipients, .tags],
      some [2]⟩ }

theorem Store.fresh_eq : Store.fresh = .ok Store.migrated := rfl

/-- The application at the start of a run. -/
def Social.start (capacity : Nat) (cached : Bool) (lifetimes : Lifetimes) : Social where
  store := Store.migrated
  broker := .new capacity
  cache := if cached then some .empty else none
  lifetimes := lifetimes
  now := 0

/-- The application starts where runs begin. -/
theorem Social.new_eq (capacity : Nat) (cached : Bool) (lifetimes : Lifetimes) :
    Social.new capacity cached lifetimes = .ok (Social.start capacity cached lifetimes) := by
  rw [Social.new, Store.fresh_eq]
  rfl

end Microblog
