import Microblog.Proofs.Social.Run
import Microblog.Proofs.Store.Notified

/-!
# What an operation announces

Somebody is told of something in two places: a row is added to the notifications, and what is read
from that row is published for whom it is.  `Social.Announced` says that from one state to another
either both have happened, once, or neither has.

* `Action.Mute`: an action that leaves the notifications and the broker alone.
* `Action.Announces`: an action after which nobody or one was told.  An action that is mute may come
  before it or after it.
* `Social.announced_perform`: every operation announces, unless it is done to the broker itself.

So the broker can be read off the store: it goes the way of the events `Social.events`, which are
those done to it and a publication for each row that was added (`Social.events_cases`).
-/

set_option autoImplicit false

namespace Microblog

/-! ## Announcements -/

/-- Nobody was told of anything, or one was: a notification was stored that is not read yet, and
what is stored was published. -/
inductive Social.Announced (s s' : Social) : Prop
  | silent (broker : s'.broker = s.broker) (stored : s.store.NoneNotified s'.store)
  | told {m : StoredNotification} {n : Notification} (read : m.read = .ok n)
      (unread : n.isRead = false)
      (stored : s'.store.notifications.list = s.store.notifications.list ++ [m])
      (broker : s'.broker = (s.broker.publish n.recipientId n).2)

theorem Social.Announced.congr {s s' t t' : Social} (h : s.Announced s')
    (hbroker : t.broker = s.broker) (hstored : t.store.notifications = s.store.notifications)
    (hbroker' : t'.broker = s'.broker)
    (hstored' : t'.store.notifications = s'.store.notifications) : t.Announced t' := by
  cases h with
  | silent broker stored =>
    refine .silent (by rw [hbroker', broker, hbroker]) fun m hm ↦ ?_
    rw [hstored'] at hm
    rw [hstored]
    exact stored m hm
  | told read unread stored broker =>
    exact .told read unread (by rw [hstored', stored, hstored]) (by rw [hbroker', broker, hbroker])

namespace Action

variable {α β : Type}

/-- An action that leaves the notifications and the broker as they are. -/
structure Mute (a : Action α) : Prop where
  broker : ∀ s, (a.after s).broker = s.broker
  notifications : ∀ s, (a.after s).store.notifications = s.store.notifications

/-- An action after which nobody or one was told. -/
def Announces (a : Action α) : Prop := ∀ s : Social, s.Announced (a.after s)

/-! ## Actions that tell nobody -/

theorem Looks.mute {a : Action α} (h : a.Looks) : a.Mute :=
  ⟨fun s ↦ by rw [h.after], fun s ↦ by rw [h.after]⟩

namespace Mute

theorem bind {a : Action α} {f : α → Action β} (ha : a.Mute) (hf : ∀ x, (f x).Mute) :
    (a >>= f).Mute where
  broker s := part_after_bind s Social.broker ha.broker fun x ↦ (hf x).broker
  notifications s :=
    part_after_bind s (·.store.notifications) ha.notifications fun x ↦ (hf x).notifications

/-- A statement that does not write to the notifications. -/
theorem change {statement : Nat → Store → Except StoreError (α × Store)}
    (h : ∀ {now s x s'}, statement now s = .ok (x, s') → s'.notifications = s.notifications) :
    (Action.change statement).Mute := by
  constructor <;> intro s <;>
    rcases change_error_or_ok s statement with ⟨-, -, hafter⟩ | ⟨x, s', hrun, -, hafter⟩ <;>
    rw [hafter]
  exact h hrun

theorem attempt {a : Action Unit} (h : a.Mute) : (Action.attempt a).Mute :=
  ⟨fun s ↦ by rw [after_attempt, h.broker], fun s ↦ by rw [after_attempt, h.notifications]⟩

theorem cached {decode : Decoder (List α)} {encode : α → Json} {key : String}
    {lifetime : Lifetimes → Nat} {compute : Action (List α)} (h : compute.Mute) :
    (Action.cached decode encode key lifetime compute).Mute where
  broker := part_after_cached Social.broker (fun _ _ ↦ rfl) h.broker
  notifications := part_after_cached (·.store.notifications) (fun _ _ ↦ rfl) h.notifications

theorem recordTags (tweet : Int) (tags : List String) : (Action.recordTags tweet tags).Mute := by
  induction tags with
  | nil => exact (Looks.pure _).mute
  | cons tag tags ih =>
    have hadd : (Action.change fun now ↦ Store.addTag now tag).Mute := by
      refine change fun h ↦ ?_
      rcases Store.of_addTag h with rfl | ⟨_, _, -, -, -, rfl⟩ <;> rfl
    have hlink : ∀ id, (Action.change fun _ ↦ Store.linkTag tweet id).Mute := by
      refine fun id ↦ change fun h ↦ ?_
      rcases Store.of_linkTag h with rfl | ⟨_, _, -, -, -, -, -, rfl⟩ <;> rfl
    exact (attempt <| (hadd.bind fun _ ↦ (Looks.ask _).mute).bind hlink).bind fun _ ↦ ih

theorem createUser (new : NewUser) : (Action.change fun now ↦ Store.createUser now new).Mute := by
  refine change fun h ↦ ?_
  obtain ⟨_, _, -, -, rfl⟩ := Store.of_createUser h
  rfl

theorem unlike (user tweet : Int) : (Action.unlike user tweet).Mute := by
  refine bind (change fun h ↦ ?_) fun _ ↦ (Looks.pure _).mute
  rcases Store.of_unlike h with ⟨-, rfl⟩ | ⟨-, _, -, -, -, rfl⟩ <;> rfl

theorem unfollow (follower target : Int) : (Action.unfollow follower target).Mute := by
  refine bind (change fun h ↦ ?_) fun _ ↦ (Looks.pure _).mute
  rcases Store.of_unfollow h with ⟨-, rfl⟩ | ⟨-, _, -, -, -, rfl⟩ <;> rfl

theorem updateProfile (id : Int) (displayName bio : Option String) :
    (Action.updateProfile id displayName bio).Mute := by
  refine (Looks.ask _).mute.bind fun _ ↦ (Looks.orFail _ _).mute.bind fun user ↦ ?_
  refine bind (bind (change fun h ↦ ?_) fun written ↦ ?_) fun _ ↦ (Looks.orFail _ _).mute
  · rcases Store.of_writeProfile h with ⟨-, rfl⟩ | ⟨-, _, rfl⟩ <;> rfl
  · split
    · exact (Looks.ask _).mute
    · exact (Looks.pure _).mute

theorem globalFeed (page : Page) (viewer : Option Int) : (Action.globalFeed page viewer).Mute := by
  refine bind ?_ fun rows ↦ (Looks.items _ _).mute
  cases viewer with
  | some viewer => exact (Looks.ask _).mute
  | none => exact cached (Looks.ask _).mute

theorem trending (limit : Int) : (Action.trending limit).Mute :=
  cached ⟨fun s ↦ by rw [after_freshTrending], fun s ↦ by rw [after_freshTrending]⟩

end Mute

/-! ## Actions that may tell one -/

theorem Mute.announces {a : Action α} (h : a.Mute) : a.Announces :=
  fun s ↦ .silent (h.broker s) (.of_eq (h.notifications s))

namespace Announces

/-- What is done first may not tell anybody. -/
theorem mute_bind {a : Action α} {f : α → Action β} (ha : a.Mute) (hf : ∀ x, (f x).Announces) :
    (a >>= f).Announces := by
  intro s
  rw [after_bind]
  cases (a.answer s).toOption with
  | none => exact ha.announces s
  | some x =>
    exact (hf x (a.after s)).congr (ha.broker s).symm (ha.notifications s).symm rfl rfl

/-- What is done afterwards may not tell anybody. -/
theorem bind_mute {a : Action α} {f : α → Action β} (ha : a.Announces) (hf : ∀ x, (f x).Mute) :
    (a >>= f).Announces := by
  intro s
  rw [after_bind]
  cases (a.answer s).toOption with
  | none => exact ha s
  | some x => exact (ha s).congr rfl rfl ((hf x).broker _) ((hf x).notifications _)

/-- A statement that adds no notification. -/
theorem change {statement : Nat → Store → Except StoreError (α × Store)}
    (h : ∀ {now s x s'}, statement now s = .ok (x, s') → s.NoneNotified s') :
    (Action.change statement).Announces := by
  intro s
  rcases change_error_or_ok s statement with ⟨-, -, hafter⟩ | ⟨x, s', hrun, -, hafter⟩ <;>
    rw [hafter]
  · exact .silent rfl (.of_eq rfl)
  · exact .silent rfl (h hrun)

/-- **What somebody is told is stored first, and then published as it is stored.** -/
theorem notify (recipient actor : Int) (tweet : Option Int) (kind : NotificationKind) :
    (Action.notify recipient actor tweet kind).Announces := by
  intro s
  rw [Action.notify]
  split
  · exact .silent rfl (.of_eq rfl)
  · rw [after_attempt, after_bind]
    rcases change_error_or_ok s fun now ↦ Store.createNotification now
      ⟨recipient, actor, tweet, kind⟩ with ⟨_, hanswer, hafter⟩ | ⟨n, s', hrun, hanswer, hafter⟩
    · rw [hanswer, hafter]
      exact .silent rfl (.of_eq rfl)
    · rw [hanswer, hafter]
      obtain ⟨time, notifications, -, hlist, -, -, -, hread, rfl⟩ :=
        Store.of_createNotification hrun
      have hrecipient : n.recipientId = recipient := (StoredNotification.of_read hread).2
      exact .told hread (Store.isRead_of_read_newNotification hread) hlist
        (congrArg (fun r ↦ (s.broker.publish r n).2) hrecipient.symm)

/-! The requests that may tell one. -/

theorem createTweet (user : Int) (content : Option String) (parent : Option Int) :
    (Action.createTweet user content parent).Announces := by
  have hpost : ∀ content, (Action.change fun now ↦
      Store.createTweet now user (some content) parent).Mute := by
    refine fun content ↦ .change fun h ↦ ?_
    obtain ⟨_, -, rfl⟩ := Store.of_createTweet h
    cases parent <;> rfl
  have htagged : ∀ (t : Tweet) (content : String), (do
      Action.recordTags t.id (Text.hashtags content)
      Action.getTweet t.id (some user) : Action Item).Mute := fun t content ↦
    (Mute.recordTags _ _).bind fun _ ↦ (Looks.getTweet _ _).mute
  refine mute_bind (Looks.orFail _ _).mute fun content ↦ ?_
  refine mute_bind (Looks.requireActor _).mute fun _ ↦ ?_
  cases parent with
  | none =>
    refine mute_bind (Looks.pure _).mute fun answered ↦ mute_bind (hpost content) fun t ↦ ?_
    cases answered with
    | none => exact (htagged t content).announces
    | some answered => exact (notify _ _ _ _).bind_mute fun _ ↦ htagged t content
  | some id =>
    refine mute_bind (Looks.requireTweet id).mute fun _ ↦ ?_
    refine mute_bind (Looks.pure _).mute fun answered ↦ mute_bind (hpost content) fun t ↦ ?_
    cases answered with
    | none => exact (htagged t content).announces
    | some answered => exact (notify _ _ _ _).bind_mute fun _ ↦ htagged t content

theorem deleteTweet (user tweet : Int) : (Action.deleteTweet user tweet).Announces := by
  refine mute_bind (Looks.requireTweet tweet).mute fun t ↦ ?_
  dsimp only
  split
  · exact Looks.fail_bind.mute.announces
  · split
    · exact (change Store.NoneNotified.deleteRetweet).bind_mute fun _ ↦ (Looks.pure _).mute
    · exact (change Store.NoneNotified.deleteTweet).bind_mute fun _ ↦ (Looks.pure _).mute

theorem like (user tweet : Int) : (Action.like user tweet).Announces := by
  have hlike : (Action.change fun now ↦ Store.like now user tweet).Mute := by
    refine .change fun h ↦ ?_
    rcases Store.of_like h with ⟨-, rfl⟩ | ⟨-, _, _, -, -, -, -, -, rfl⟩ <;> rfl
  refine mute_bind (Looks.requireActor _).mute fun _ ↦ ?_
  refine mute_bind (Looks.requireTweet _).mute fun t ↦ mute_bind hlike fun added ↦ ?_
  split
  · exact notify _ _ _ _
  · exact (Looks.pure _).mute.announces

theorem retweet (user tweet : Int) : (Action.retweet user tweet).Announces := by
  have hretweet : ∀ target,
      (Action.change fun now ↦ Store.createRetweet now user target).Mute := by
    refine fun target ↦ .change fun h ↦ ?_
    rcases Store.of_createRetweet h with rfl | ⟨_, _, rfl⟩ <;> rfl
  refine mute_bind (Looks.requireActor _).mute fun _ ↦ ?_
  refine mute_bind (Looks.resolve _).mute fun target ↦ mute_bind (hretweet _) fun _ ↦ ?_
  refine mute_bind (Looks.orFail _ _).mute fun record ↦ ?_
  exact (notify _ _ _ _).bind_mute fun _ ↦ (Looks.getTweet _ _).mute

theorem undoRetweet (user tweet : Int) : (Action.undoRetweet user tweet).Announces := by
  refine mute_bind (Looks.resolve _).mute fun target ↦ ?_
  exact (change Store.NoneNotified.deleteRetweet).bind_mute fun _ ↦ (Looks.pure _).mute

theorem follow (follower target : Int) : (Action.follow follower target).Announces := by
  have hfollow : (Action.change fun now ↦ Store.follow now follower target).Mute := by
    refine .change fun h ↦ ?_
    rcases Store.of_follow h with ⟨-, rfl⟩ | ⟨-, _, _, -, -, -, -, -, -, rfl⟩ <;> rfl
  rw [Action.follow]
  dsimp only
  split
  · exact Looks.fail_bind.mute.announces
  · refine mute_bind (Looks.requireActor _).mute fun _ ↦ ?_
    refine mute_bind (Looks.ask _).mute fun _ ↦ mute_bind (Looks.orFail _ _).mute fun _ ↦ ?_
    refine mute_bind hfollow fun added ↦ ?_
    split
    · exact (notify _ _ _ _).bind_mute fun _ ↦ (Looks.pure _).mute
    · exact (Looks.pure _).mute.announces

theorem markRead (user : Int) : (Action.markRead user).Announces :=
  change Store.NoneNotified.markRead

end Announces

end Action

/-! ## Operations -/

/-- What an operation does to the broker itself, if it is one of those that are done to it. -/
def Operation.event? : Operation → Option Broker.Event
  | .subscribe recipient => some (.subscribe recipient)
  | .receive mailbox => some (.receive mailbox)
  | .unsubscribe mailbox => some (.unsubscribe mailbox)
  | .drop mailbox => some (.drop mailbox)
  | _ => none

namespace Social

theorem perform_of_event {op : Operation} {e : Broker.Event} (h : op.event? = some e)
    (s : Social) : s.perform op = s.stream e := by
  cases op with
  | subscribe | receive | unsubscribe | drop => cases h; rfl
  | _ => cases h

/-- **Every operation that is not done to the broker itself tells nobody, or tells one.** -/
theorem announced_perform {op : Operation} (h : op.event? = none) (s : Social) :
    s.Announced (s.perform op) := by
  cases hlooks : op.looks with
  | true =>
    rw [perform_of_looks hlooks]
    exact .silent rfl (.of_eq rfl)
  | false =>
    cases op with
    | createUser new => exact (Action.Mute.createUser new).announces s
    | createTweet user content parent => exact Action.Announces.createTweet user content parent s
    | deleteTweet user tweet => exact Action.Announces.deleteTweet user tweet s
    | like user tweet => exact Action.Announces.like user tweet s
    | unlike user tweet => exact (Action.Mute.unlike user tweet).announces s
    | retweet user tweet => exact Action.Announces.retweet user tweet s
    | undoRetweet user tweet => exact Action.Announces.undoRetweet user tweet s
    | follow follower target => exact Action.Announces.follow follower target s
    | unfollow follower target => exact (Action.Mute.unfollow follower target).announces s
    | updateProfile user name bio => exact (Action.Mute.updateProfile user name bio).announces s
    | markRead user => exact Action.Announces.markRead user s
    | globalFeed page viewer => exact (Action.Mute.globalFeed page viewer).announces s
    | trending limit => exact (Action.Mute.trending limit).announces s
    | advance ns => exact .silent rfl (.of_eq rfl)
    | subscribe | receive | unsubscribe | drop => cases h
    | _ => cases hlooks

/-- The notifications that an operation adds, as they are stored after it. -/
def added (s : Social) (op : Operation) : List StoredNotification :=
  (s.perform op).store.notifications.list.filter fun m ↦ !s.store.notifications.has m.id

/-- What an operation means to the broker: it is done to the broker itself, or the notifications
that it adds are published as they are read. -/
def events (s : Social) (op : Operation) : List Broker.Event :=
  match op.event? with
  | some e => [e]
  | none => (s.added op).filterMap fun m ↦
      m.read.toOption.map fun n ↦ .publish n.recipientId n

theorem added_eq_nil {s : Social} {op : Operation}
    (h : s.store.NoneNotified (s.perform op).store) : s.added op = [] := by
  refine List.filter_eq_nil_iff.2 fun m hm ↦ ?_
  rw [h m hm]
  exact Bool.false_ne_true

/-- **What an operation adds and what it means to the broker**: it is done to the broker and adds
nothing, or adds nothing and means nothing, or adds one notification, which it publishes. -/
theorem events_cases (s : Social) (op : Operation) :
    (s.perform op).broker = s.broker.run (s.events op) ∧
      ((s.added op = [] ∧ s.events op = op.event?.toList) ∨
        op.event? = none ∧ ∃ m n, m.read = .ok n ∧ n.isRead = false ∧ s.added op = [m] ∧
          s.events op = [.publish n.recipientId n]) := by
  cases he : op.event? with
  | some e =>
    have hevents : s.events op = [e] := by rw [events, he]
    have hperform := perform_of_event he s
    have hadded : s.added op = [] := added_eq_nil (by rw [hperform]; exact .of_eq rfl)
    exact ⟨by rw [hevents, hperform]; rfl, .inl ⟨hadded, hevents⟩⟩
  | none =>
    rcases announced_perform he s with ⟨hbroker, hstored⟩ | ⟨hread, hunread, hstored, hbroker⟩
    · have hadded : s.added op = [] := added_eq_nil hstored
      have hevents : s.events op = [] := by rw [events, he, hadded]; rfl
      exact ⟨by rw [hevents, hbroker]; rfl, .inl ⟨hadded, hevents⟩⟩
    · rename_i m n
      have hadded : s.added op = [m] := Rows.filter_new hstored
      have hevents : s.events op = [.publish n.recipientId n] := by
        simp only [events, he, hadded, List.filterMap_cons, List.filterMap_nil, hread,
          Except.toOption, Option.map_some]
      exact ⟨by rw [hevents, hbroker]; rfl, .inr ⟨rfl, m, n, hread, hunread, hadded, hevents⟩⟩

end Social

end Microblog
