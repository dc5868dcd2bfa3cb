import Microblog.Proofs.Social.Atomic
import Microblog.Proofs.Social.Flags

/-!
# Profiles

Whoever changes their profile gives some of its fields.  Both columns are overwritten then, with
what was read right before in the place of a field that is not given.

`Social.run_profiles` says that the fields are set just as they are given and that all else stays,
that the account which is answered is what its owner sees from then on, and that giving the same
fields again changes nothing but the time.

The account is answered as one that its viewer does not follow, whoever looks; its owner sees the
same because no run leads to a store where somebody follows themselves (`Store.Outward`).
-/

set_option autoImplicit false

namespace Microblog

open Text

/-! ## Fields -/

namespace Profile

/-- What becomes of a field of a profile: it stays if nothing is given for it, and else it is the
given text without the blanks around it, or absent if there is nothing but blanks. -/
def field (old : Option String) : Option String → Option String
  | none => old
  | some text => if trim text = "" then none else some (trim text)

theorem edited_eq_field (old given : Option String) :
    Action.edited old given = field old given := by
  cases given with
  | none => rfl
  | some text =>
    rw [Action.edited, tidy, Option.map_some, Option.filter_some, field]
    simp only [ne_eq, decide_not, Bool.not_eq_true', decide_eq_false_iff_not, ite_not]

/-- A field is the same after the same text was given again. -/
theorem field_field (old given : Option String) :
    field (field old given) given = field old given := by
  cases given <;> rfl

end Profile

/-- An account after a change of its profile at the time `time`. -/
def StoredUser.updated (u : StoredUser) (displayName bio : Option String) (time : String) :
    StoredUser :=
  { u with
    displayName := Profile.field u.displayName displayName
    bio := Profile.field u.bio bio
    updatedAt := time }

/-- The same change at a later time changes nothing but the time. -/
theorem StoredUser.updated_updated (u : StoredUser) (displayName bio : Option String)
    (time later : String) :
    (u.updated displayName bio time).updated displayName bio later =
      { u.updated displayName bio time with updatedAt := later } := by
  simp only [updated, Profile.field_field]

namespace Store

variable {now : Nat} {s s' : Store}

/-! ## Following oneself -/

/-- Nobody follows themselves. -/
def Outward (s : Store) : Prop := ∀ f ∈ s.follows.list, f.followerId ≠ f.followingId

theorem Outward.step (hstep : Step s s') (h : s.Outward) : s'.Outward := by
  cases hstep with
  | addFollow hne _ _ hlist =>
    intro f hf
    rcases List.mem_append.1 (hlist ▸ hf) with hf | hf
    · exact h f hf
    · exact List.mem_singleton.1 hf ▸ hne
  | keepFollows => exact fun f hf ↦ h f (Rows.mem_keep.1 hf).1
  | _ => exact h

/-- **Whatever the application writes, nobody follows themselves.** -/
theorem Outward.change (hchange : Change now s s') (h : s.Outward) : s'.Outward :=
  hchange.steps.keeps Outward.step h

theorem Outward.follows?_self (h : s.Outward) (id : Int) : s.follows? (some id) id = false := by
  rw [Bool.eq_false_iff, ne_eq, follows?_iff]
  rintro ⟨f, hf, hfollower, rfl⟩
  exact h f hf (Option.some.inj hfollower)

/-! ## The statements -/

/-- One account is replaced by `row`, which has its number, and nothing else is changed. -/
structure Overwrites (s : Store) (row : StoredUser) (s' : Store) : Prop where
  rest : s' = { s with users := s'.users }
  users : s'.users.list = s.users.list.map fun u ↦ if u.id = row.id then row else u

/-- What is put in the place of an account that is stored is stored. -/
theorem Overwrites.mem {row u : StoredUser} (h : s.Overwrites row s') (hu : u ∈ s.users.list)
    (hid : u.id = row.id) : row ∈ s'.users.list := by
  rw [h.users]
  exact List.mem_map.2 ⟨u, hu, if_pos hid⟩

theorem fields_of_read {u : StoredUser} {user : User} (h : u.read = .ok user) :
    user.displayName = u.displayName ∧ user.bio = u.bio := by
  simp only [StoredUser.read, bind_eq_ok_iff, pure_eq_ok_iff] at h
  obtain ⟨_, -, _, -, rfl⟩ := h
  exact ⟨rfl, rfl⟩

/-- Both columns of an account that was read are overwritten. -/
theorem exists_writeProfile (h : s.Equipped) {old : StoredUser} (hold : old ∈ s.users.list)
    {user : User} (hread : old.read = .ok user) (now : Nat) (displayName bio : Option String) :
    ∃ store, s.writeProfile now old.id
        ⟨Action.edited user.displayName displayName, Action.edited user.bio bio⟩ =
          .ok (true, store) ∧
      s.Overwrites (old.updated displayName bio (stamp now)) store := by
  have hid : s.users.has old.id = true := Rows.has_iff.2 ⟨old, hold, rfl⟩
  obtain ⟨hname, hbio⟩ := fields_of_read hread
  rw [writeProfile, h.require, if_pos hid, hname, hbio, Profile.edited_eq_field,
    Profile.edited_eq_field]
  refine ⟨_, rfl, rfl, ?_⟩
  rw [Rows.list_changeAt]
  refine List.map_congr_left fun u hu ↦ ?_
  -- the number belongs to one account only
  split
  · rename_i hkey
    obtain rfl : u = old := Rows.eq_of_key_eq hu hold hkey
    exact (if_pos rfl).symm
  · rename_i hkey
    exact (if_neg hkey).symm

end Store

namespace Action

variable {s : Social} {old : StoredUser}

/-! ## The request -/

/-- An account that is stored is read, overwritten and read again. -/
theorem Answers.updateProfile (h : s.store.Orderly) (hold : old ∈ s.store.users.list)
    (displayName bio : Option String) :
    (Action.updateProfile old.id displayName bio).Answers s fun user s' ↦
      (old.updated displayName bio (Store.stamp s.now)).read = .ok user ∧
        s' = { s with store := s'.store } ∧
        s.store.Overwrites (old.updated displayName bio (Store.stamp s.now)) s'.store := by
  obtain ⟨user, hread⟩ := h.read_user hold
  obtain ⟨store, hwrite, hoverwrites⟩ :=
    Store.exists_writeProfile h.equipped hold hread s.now displayName bio
  have hnew := hoverwrites.mem hold rfl
  have horderly : store.Orderly := h.change (.profile hwrite)
  obtain ⟨user', hread'⟩ := horderly.read_user hnew
  refine (Answers.ask (h.equipped.user?_of_mem hold hread)).bind ?_
  rintro _ _ ⟨rfl, rfl⟩
  rw [Action.orFail, pure_bind]
  dsimp only
  rw [putProfile, bind_assoc]
  refine (Answers.change hwrite).bind ?_
  rintro _ _ ⟨rfl, rfl⟩
  refine (Answers.ask (horderly.equipped.user?_of_mem hnew hread')).bind ?_
  rintro _ _ ⟨rfl, rfl⟩
  exact Answers.pure user' ⟨hread', rfl, hoverwrites⟩

theorem answer_updateProfile_missing (h : s.store.Readable) {id : Int}
    (hid : s.store.users.has id = false) (displayName bio : Option String) :
    (updateProfile id displayName bio).answer s = .error .noUser := by
  obtain ⟨o, hasked, hsome⟩ := h.user?_eq_ok id
  rw [hid, iff_false_right Bool.false_ne_true, Option.not_isSome_iff_eq_none] at hsome
  subst hsome
  rw [updateProfile, answer_bind_of_ok (.ask _) ((answer_ask_eq_ok_iff s).2 hasked)]
  rfl

end Action

namespace Social

/-! ## What comes of it -/

/-- To change the profile puts `row` in the place of the account that has its number, and changes
nothing else.  The account is answered as it is then, and presented as its owner sees it. -/
structure Puts (s : Social) (row : StoredUser) (displayName bio : Option String) : Prop where
  answer : ∃ user seen, (Action.updateProfile row.id displayName bio).answer s = .ok user ∧
    row.read = .ok user ∧
    (Action.getUser row.id (some row.id)).answer
      (s.perform (.updateProfile row.id displayName bio)) = .ok seen ∧
    seen.present = user.present
  rest : s.perform (.updateProfile row.id displayName bio) =
    { s with store := (s.perform (.updateProfile row.id displayName bio)).store }
  store : s.store.Overwrites row (s.perform (.updateProfile row.id displayName bio)).store

/-- What comes of a change of a profile. -/
structure UpdatesProfiles (s : Social) : Prop where
  /-- Of an account that is stored, the fields become what was given for them, and when the same is
  given again, nothing changes but the time. -/
  stored : ∀ old ∈ s.store.users.list, ∀ displayName bio,
    s.Puts (old.updated displayName bio (Store.stamp s.now)) displayName bio ∧
    ∀ ns, ((s.perform (.updateProfile old.id displayName bio)).perform (.advance ns)).Puts
      { old.updated displayName bio (Store.stamp s.now) with
        updatedAt := Store.stamp (s.now + ns) } displayName bio
  /-- An account that is not stored is not found, and nothing is changed. -/
  missing : ∀ id displayName bio, s.store.users.has id = false →
    ∃ f, (Action.updateProfile id displayName bio).answer s = .error f ∧
      f.report.kind = .notFound ∧ s.perform (.updateProfile id displayName bio) = s

/-- Who looks at their own account sees one that they do not follow. -/
theorem getUser_self {s : Social} (h : s.store.Equipped) (hself : s.store.Outward) {u : StoredUser}
    (hu : u ∈ s.store.users.list) {user : User} (hread : u.read = .ok user) :
    (Action.getUser u.id (some u.id)).answer s = .ok ⟨user, false⟩ := by
  have hseen := h.seenUser?_of_mem hu hread (some u.id)
  rw [hself.follows?_self] at hseen
  rw [Action.getUser,
    Action.answer_bind_of_ok (.ask _) ((Action.answer_ask_eq_ok_iff s).2 hseen)]
  rfl

theorem puts_of_mem {s : Social} (h : s.store.Orderly) (hself : s.store.Outward)
    {old : StoredUser} (hold : old ∈ s.store.users.list) (displayName bio : Option String) :
    s.Puts (old.updated displayName bio (Store.stamp s.now)) displayName bio := by
  obtain ⟨user, hanswer, hread, hrest, hoverwrites⟩ :=
    Action.Answers.updateProfile h hold displayName bio
  have hchanges := s.changes_perform (.updateProfile old.id displayName bio)
  refine ⟨⟨user, ⟨user, false⟩, hanswer, hread, ?_, rfl⟩, hrest, hoverwrites⟩
  exact getUser_self (hchanges.keeps Store.Orderly.change h).equipped
    (hchanges.keeps Store.Outward.change hself) (hoverwrites.mem hold rfl) hread

theorem unchanged_of_refused {s : Social} (h : s.store.Orderly) {id : Int}
    {displayName bio : Option String} {f : Failure}
    (hfails : (Action.updateProfile id displayName bio).answer s = .error f) :
    s.perform (.updateProfile id displayName bio) = s := by
  have hfailure : s.failure? (.updateProfile id displayName bio) = some f :=
    congrArg Except.failure? hfails
  exact (unchanged_of_failure h hfailure).1

/-- In a store that is in order, and where nobody follows themselves, profiles are changed as they
should be. -/
theorem updatesProfiles_of_orderly {s : Social} (h : s.store.Orderly) (hself : s.store.Outward) :
    s.UpdatesProfiles where
  stored old hold displayName bio := by
    have hputs := puts_of_mem h hself hold displayName bio
    have hchanges := s.changes_perform (.updateProfile old.id displayName bio)
    have hnow : (s.perform (.updateProfile old.id displayName bio)).now = s.now :=
      (Action.Evolves.updateProfile old.id displayName bio).now
    refine ⟨hputs, fun ns ↦ ?_⟩
    -- time alone passes until the same is given again
    have horderly : ((s.perform (.updateProfile old.id displayName bio)).perform
        (.advance ns)).store.Orderly := hchanges.keeps Store.Orderly.change h
    rw [← StoredUser.updated_updated, ← hnow]
    exact puts_of_mem horderly (hchanges.keeps Store.Outward.change hself)
      (hputs.store.mem hold rfl) displayName bio
  missing id displayName bio hid := by
    have hfails := Action.answer_updateProfile_missing h.toReadable hid displayName bio
    exact ⟨_, hfails, rfl, unchanged_of_refused h hfails⟩

/-- **In every run a change of a profile answers what the profile then is**: the fields are set as
they were given and all else stays, the account is answered as its owner sees it, giving the same
again changes nothing but the time, and of an account that is not there nothing is changed. -/
theorem run_profiles (capacity : Nat) (cached : Bool) (lifetimes : Lifetimes)
    (ops : List Operation) : ((start capacity cached lifetimes).run ops).UpdatesProfiles :=
  updatesProfiles_of_orderly (run_orderly capacity cached lifetimes ops)
    (run_keeps Store.Outward.change _ ops fun _ hf ↦ absurd hf List.not_mem_nil)

/-- A padded name is trimmed, and a blank text clears the field. -/
example : ((start 1 true ⟨0, 0⟩).run [
      .createUser { username := "ada", email := "ada@x.org", bio := some "poet" },
      .updateProfile 1 (some " Ada ") (some "\n")]).store.users.list.map
    (fun u ↦ (u.displayName, u.bio)) = [(some "Ada", none)] := by
  decide +kernel

end Social

end Microblog
