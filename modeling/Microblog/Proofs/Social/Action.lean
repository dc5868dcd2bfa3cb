import Microblog.Proofs.Social.Looking
import Microblog.Proofs.Store.Change
import Microblog.Proofs.Store.Written

/-!
# What an action does to the store

An action that does not look only may still leave the store alone, and else it changes the store
statement by statement.

* `Action.Keeps`: an action that writes to the cache at most: it leaves the store and the time.
* `Action.Evolves`: an action that changes the store by a sequence of `Store.Change`, whether it
  fails or not.

Both hold of a sequence of steps when they hold of each of them, where a later step may assume what
the earlier ones have answered.  So every action of the application evolves the store, and the rest
of the theory needs no more of the actions than that.
-/

set_option autoImplicit false

namespace Microblog

namespace Action

variable {α β : Type}

/-! ## Actions that write to the cache at most -/

/-- A request that goes through the cache leaves all else as the computation leaves it. -/
theorem part_after_cached {γ : Type} (part : Social → γ) {decode : Decoder (List α)}
    {encode : α → Json} {key : String} {lifetime : Lifetimes → Nat} {compute : Action (List α)}
    (hpart : ∀ (s : Social) cache, part { s with cache } = part s)
    (hcompute : ∀ s, part (compute.after s) = part s) (s : Social) :
    part ((cached decode encode key lifetime compute).after s) = part s := by
  have hremember : ∀ (found : List α) (s : Social), part ((do
      remember key (.list (found.map encode)) (lifetime (← get).lifetimes)
      return found : Action (List α)).after s) = part s := fun _ s ↦ hpart s _
  refine part_after_bind s part (fun _ ↦ rfl) fun found s ↦ ?_
  split
  · rfl
  · refine part_after_bind s part hcompute fun found s ↦ ?_
    split
    · exact hremember found s
    · rfl

/-- An action that leaves the store and the time as they are. -/
structure Keeps (a : Action α) : Prop where
  store : ∀ s, (a.after s).store = s.store
  now : ∀ s, (a.after s).now = s.now

theorem Looks.keeps {a : Action α} (h : a.Looks) : a.Keeps :=
  ⟨fun s ↦ by rw [h.after], fun s ↦ by rw [h.after]⟩

namespace Keeps

theorem bind {a : Action α} {f : α → Action β} (ha : a.Keeps) (hf : ∀ x, (f x).Keeps) :
    (a >>= f).Keeps where
  store s := part_after_bind s Social.store ha.store fun x ↦ (hf x).store
  now s := part_after_bind s Social.now ha.now fun x ↦ (hf x).now

theorem cached {decode : Decoder (List α)} {encode : α → Json} {key : String}
    {lifetime : Lifetimes → Nat} {compute : Action (List α)} (h : compute.Keeps) :
    (Action.cached decode encode key lifetime compute).Keeps where
  store := part_after_cached Social.store (fun _ _ ↦ rfl) h.store
  now := part_after_cached Social.now (fun _ _ ↦ rfl) h.now

theorem globalFeed (page : Page) (viewer : Option Int) : (Action.globalFeed page viewer).Keeps := by
  refine bind ?_ fun rows ↦ (Looks.items _ _).keeps
  cases viewer with
  | some viewer => exact (Looks.ask _).keeps
  | none => exact cached (Looks.ask _).keeps

theorem trending (limit : Int) : (Action.trending limit).Keeps :=
  cached ⟨fun s ↦ by rw [after_freshTrending], fun s ↦ by rw [after_freshTrending]⟩

end Keeps

/-! ## Actions that change the store -/

/-- An action that, done in `s`, leaves the time and changes the store statement by statement. -/
structure Evolves (a : Action α) (s : Social) : Prop where
  now : (a.after s).now = s.now
  store : Store.Changes s.now s.store (a.after s).store

theorem Keeps.evolves {a : Action α} (h : a.Keeps) (s : Social) : a.Evolves s :=
  ⟨h.now s, h.store s ▸ .refl⟩

theorem Looks.evolves {a : Action α} (h : a.Looks) (s : Social) : a.Evolves s := h.keeps.evolves s

namespace Evolves

variable {s : Social}

/-- What comes later may assume what the first step has answered. -/
theorem bind {a : Action α} {f : α → Action β} (ha : a.Evolves s)
    (hf : ∀ x, a.answer s = .ok x → (f x).Evolves (a.after s)) : (a >>= f).Evolves s := by
  cases hx : a.answer s with
  | error e =>
    constructor <;> rw [after_bind, hx]
    · exact ha.now
    · exact ha.store
  | ok x =>
    have hfx := hf x hx
    constructor <;> rw [after_bind, hx]
    · exact hfx.now.trans ha.now
    · exact ha.store.trans (ha.now ▸ hfx.store)

/-- A step that only looks gives what follows it something to assume. -/
theorem look_bind {a : Action α} {f : α → Action β} (ha : a.Looks)
    (hf : ∀ x, a.answer s = .ok x → (f x).Evolves s) : (a >>= f).Evolves s :=
  bind (ha.evolves s) fun x hx ↦ (ha.after s).symm ▸ hf x hx

/-- A statement that is one of the changes. -/
theorem change {statement : Nat → Store → Except StoreError (α × Store)}
    (h : ∀ x s', statement s.now s.store = .ok (x, s') → s.store.Change s.now s') :
    (Action.change statement).Evolves s := by
  rcases change_error_or_ok s statement with ⟨-, -, hafter⟩ | ⟨x, s', hrun, -, hafter⟩
  · exact ⟨by rw [hafter], by rw [hafter]; exact .refl⟩
  · exact ⟨by rw [hafter], by rw [hafter]; exact .single (h x s' hrun)⟩

theorem attempt {a : Action Unit} (h : a.Evolves s) : (Action.attempt a).Evolves s := by
  have hafter := after_attempt s a
  exact ⟨by rw [hafter, h.now], by rw [hafter]; exact h.store⟩

/-- Telling somebody adds one notification, or none. -/
theorem notify (recipient actor : Int) (tweet : Option Int) (kind : NotificationKind) :
    (Action.notify recipient actor tweet kind).Evolves s := by
  rw [Action.notify]
  split
  · exact (Looks.pure _).evolves s
  · exact attempt <| bind (change fun n s' h ↦ .notify h) fun n _ ↦ ⟨rfl, .refl⟩

theorem recordTag (tweet : Int) (tag : String) : (Action.recordTag tweet tag).Evolves s := by
  refine attempt (bind (bind (change fun _ s' h ↦ .tag h) fun _ _ ↦ ?_) fun id _ ↦ ?_)
  · exact (Looks.ask _).evolves _
  · exact change fun _ s' h ↦ .link h

theorem recordTags (tweet : Int) (tags : List String) :
    (Action.recordTags tweet tags).Evolves s := by
  induction tags generalizing s with
  | nil => exact (Looks.pure _).evolves s
  | cons tag tags ih => exact bind (recordTag tweet tag) fun _ _ ↦ ih

end Evolves

/-! ## What a look-up shows -/

/-- A tweet that was found is one that is stored. -/
theorem of_requireTweet {s : Social} {id : Int} {t : Tweet}
    (h : (requireTweet id).answer s = .ok t) :
    ∃ r ∈ s.store.tweets.list, r.id = id ∧ t.id = id ∧ t.retweetId = r.retweetId := by
  rw [requireTweet, answer_bind, after_ask] at h
  cases hask : (ask (Store.tweet? id)).answer s with
  | error e => simp [hask, Except.bind] at h
  | ok o =>
    rw [hask] at h
    obtain rfl := (answer_orFail_eq_ok_iff s).1 h
    rw [answer_ask_eq_ok_iff, Store.tweet?, during_eq_ok_iff, bind_eq_ok_iff] at hask
    obtain ⟨-, -, hfound⟩ := hask
    obtain ⟨r, hget, hread⟩ := mapM_eq_ok_some_iff.1 hfound
    obtain ⟨hmem, rfl⟩ := Rows.get?_eq_some_iff.1 hget
    simp only [StoredTweet.read, bind_eq_ok_iff, pure_eq_ok_iff] at hread
    obtain ⟨_, -, _, -, _, -, rfl⟩ := hread
    exact ⟨r, hmem, rfl, rfl, rfl⟩

/-- What a tweet is resolved to may be retweeted. -/
theorem of_resolve {s : Social} {id : Int} {t : Tweet} (h : (resolve id).answer s = .ok t) :
    s.store.Resolved t.id := by
  rw [resolve, answer_bind, (Looks.requireTweet id).after] at h
  cases hfound : (requireTweet id).answer s with
  | error e => simp [hfound, Except.bind] at h
  | ok u =>
    obtain ⟨r, hmem, hid, huid, hretweet⟩ := of_requireTweet hfound
    simp only [hfound, Except.bind] at h
    split at h
    · rename_i target htarget
      obtain ⟨-, -, -, ht, -⟩ := of_requireTweet h
      exact ⟨r, hmem, .inr (by rw [ht, ← hretweet, htarget])⟩
    · rename_i hnone
      cases h
      exact ⟨r, hmem, .inl ⟨hid.trans huid.symm, hretweet.symm.trans hnone⟩⟩

/-! ## The requests that change the store -/

namespace Evolves

variable {s : Social}

theorem createUser (new : NewUser) :
    (Action.change fun now ↦ Store.createUser now new).Evolves s :=
  change fun _ _ h ↦ .register h

theorem createTweet (user : Int) (content : Option String) (parent : Option Int) :
    (Action.createTweet user content parent).Evolves s := by
  refine look_bind (.orFail _ _) fun content _ ↦ ?_
  refine look_bind (.requireActor _) fun _ _ ↦ ?_
  cases parent with
  | none =>
    refine look_bind (.pure _) fun answered hanswered ↦ ?_
    obtain rfl := Except.ok.inj hanswered
    have seen : ∀ p, none = some p → s.store.tweets.has p = true := fun p hp ↦ by cases hp
    refine bind (change fun _ _ h ↦ .post seen h) fun tweet _ ↦ ?_
    exact bind (recordTags _ _) fun _ _ ↦ (Looks.getTweet _ _).evolves _
  | some id =>
    refine look_bind (.requireTweet id) fun t ht ↦ ?_
    refine look_bind (.pure _) fun answered hanswered ↦ ?_
    obtain rfl := Except.ok.inj hanswered
    -- the parent was found, so that it is seen in the store where the tweet is posted
    have seen : ∀ p, some id = some p → s.store.tweets.has p = true := by
      intro p hp
      obtain ⟨r, hmem, rfl, -, -⟩ := of_requireTweet ht
      exact Rows.has_iff.2 ⟨r, hmem, Option.some.inj hp⟩
    refine bind (change fun _ _ h ↦ .post seen h) fun tweet _ ↦ ?_
    refine bind (notify _ _ _ _) fun _ _ ↦ ?_
    exact bind (recordTags _ _) fun _ _ ↦ (Looks.getTweet _ _).evolves _

theorem deleteTweet (user tweet : Int) : (Action.deleteTweet user tweet).Evolves s := by
  refine look_bind (.requireTweet tweet) fun t ht ↦ ?_
  obtain ⟨r, hmem, hid, -, hretweet⟩ := of_requireTweet ht
  dsimp only
  split
  · exact Looks.fail_bind.evolves s
  · split
    · exact bind (change fun _ _ h ↦ .undo h) fun _ _ ↦ (Looks.pure _).evolves _
    · rename_i hnone
      refine bind (change fun _ _ h ↦ .delete (fun u hu huid ↦ ?_) h) fun _ _ ↦
        (Looks.pure _).evolves _
      rw [Rows.eq_of_key_eq hu hmem (huid.trans hid.symm), ← hretweet, hnone]

theorem like (user tweet : Int) : (Action.like user tweet).Evolves s := by
  refine look_bind (.requireActor _) fun _ _ ↦ ?_
  refine look_bind (.requireTweet _) fun t _ ↦ ?_
  refine bind (change fun _ _ h ↦ .like h) fun added _ ↦ ?_
  split
  · exact notify _ _ _ _
  · exact (Looks.pure _).evolves _

theorem unlike (user tweet : Int) : (Action.unlike user tweet).Evolves s :=
  bind (change fun _ _ h ↦ .unlike h) fun _ _ ↦ (Looks.pure _).evolves _

theorem retweet (user tweet : Int) : (Action.retweet user tweet).Evolves s := by
  refine look_bind (.requireActor _) fun _ _ ↦ ?_
  refine look_bind (.resolve _) fun target htarget ↦ ?_
  refine bind (change fun _ _ h ↦ .retweet (of_resolve htarget) h) fun record _ ↦ ?_
  refine bind ((Looks.orFail _ _).evolves _) fun record _ ↦ ?_
  exact bind (notify _ _ _ _) fun _ _ ↦ (Looks.getTweet _ _).evolves _

theorem undoRetweet (user tweet : Int) : (Action.undoRetweet user tweet).Evolves s := by
  refine look_bind (.resolve _) fun target _ ↦ ?_
  exact bind (change fun _ _ h ↦ .undo h) fun _ _ ↦ (Looks.pure _).evolves _

theorem updateProfile (id : Int) (displayName bio : Option String) :
    (Action.updateProfile id displayName bio).Evolves s := by
  refine bind ((Looks.ask _).evolves _) fun _ _ ↦ ?_
  refine bind ((Looks.orFail _ _).evolves _) fun user _ ↦ ?_
  refine bind (bind (change fun _ _ h ↦ .profile h) fun written _ ↦ ?_) fun _ _ ↦
    (Looks.orFail _ _).evolves _
  split
  · exact (Looks.ask _).evolves _
  · exact (Looks.pure _).evolves _

theorem follow (follower target : Int) : (Action.follow follower target).Evolves s := by
  rw [Action.follow]
  dsimp only
  split
  · exact Looks.fail_bind.evolves s
  · refine look_bind (.requireActor _) fun _ _ ↦ ?_
    refine bind ((Looks.ask _).evolves _) fun _ _ ↦ ?_
    refine bind ((Looks.orFail _ _).evolves _) fun _ _ ↦ ?_
    refine bind (change fun _ _ h ↦ .follow h) fun added _ ↦ ?_
    split
    · exact bind (notify _ _ _ _) fun _ _ ↦ (Looks.pure _).evolves _
    · exact (Looks.pure _).evolves _

theorem unfollow (follower target : Int) : (Action.unfollow follower target).Evolves s :=
  bind (change fun _ _ h ↦ .unfollow h) fun _ _ ↦ (Looks.pure _).evolves _

theorem markRead (user : Int) : (Action.markRead user).Evolves s :=
  change fun _ _ h ↦ .markRead h

end Evolves

end Action

end Microblog
