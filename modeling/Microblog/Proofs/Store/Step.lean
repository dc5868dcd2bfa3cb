import Microblog.Proofs.Store.Change
import Microblog.Proofs.Store.Written

/-!
# Single steps of the store

Every `Store.Change` consists of a few small steps, each of which adds a row, changes one, or takes
rows out.  `Store.Step` lists them, with what is known when they happen, and `Store.Change.steps`
takes a change apart.  So an invariant that holds between the steps, too, needs one case for each of
them, and no case needs to know by which statement it came about.

What a counter says does not hold between the steps: the row comes first and the counter afterwards.
-/

set_option autoImplicit false

namespace Microblog

open Text

/-- Two rows stand for the same tweet; their counters may differ. -/
structure StoredTweet.Alike (t u : StoredTweet) : Prop where
  id : t.id = u.id
  userId : t.userId = u.userId
  content : t.content = u.content
  mediaUrl : t.mediaUrl = u.mediaUrl
  parentId : t.parentId = u.parentId
  retweetId : t.retweetId = u.retweetId

theorem StoredTweet.Alike.refl (t : StoredTweet) : t.Alike t := ⟨rfl, rfl, rfl, rfl, rfl, rfl⟩

namespace Store

variable {now : Nat} {s s' : Store}

/-- One small step of the store. -/
inductive Step (s : Store) : Store → Prop
  | addUser {new : NewUser} {time : String} {users : Rows StoredUser}
      (hlast : s.counters.users < Decimal.greatest)
      (hlist : users.list = s.users.list ++ [s.newUser new time]) :
      Step s { s with users, counters.users := s.counters.users + 1 }
  | changeUser {k : Int} {f : StoredUser → StoredUser} {hkey : ∀ u, Row.key (f u) = Row.key u} :
      Step s { s with users := s.users.changeAt k f hkey }
  | post {user : Int} {content : Option String} {parent target : Option Int}
      {tweets : Rows StoredTweet} (hposted : s.Posted user content parent target tweets)
      (hparent : ∀ p, parent = some p → s.tweets.has p = true)
      (htarget : ∀ r, target = some r → s.Resolved r)
      (heither : parent = none ∨ target = none) : Step s (s.withPosted tweets)
  | recount {k : Int} {f : StoredTweet → StoredTweet} {hkey : ∀ t, Row.key (f t) = Row.key t}
      (hf : ∀ t, (f t).Alike t) : Step s { s with tweets := s.tweets.changeAt k f hkey }
  | without {D : List Int}
      (hclosed : ∀ t ∈ s.tweets.list, ∀ d ∈ D, t.RefersTo d → t.id ∈ D) :
      Step s (s.withoutTweets D)
  | addLike {l : Like} {likes : Rows Like} (huser : s.users.has l.userId = true)
      (htweet : s.tweets.has l.tweetId = true) (hlist : likes.list = s.likes.list ++ [l]) :
      Step s { s with likes }
  | keepLikes {p : Like → Bool} : Step s { s with likes := s.likes.keep p }
  | addFollow {f : Follow} {follows : Rows Follow} (hne : f.followerId ≠ f.followingId)
      (hfollower : s.users.has f.followerId = true) (hfollowing : s.users.has f.followingId = true)
      (hlist : follows.list = s.follows.list ++ [f]) : Step s { s with follows }
  | keepFollows {p : Follow → Bool} : Step s { s with follows := s.follows.keep p }
  | other {notifications : Rows StoredNotification} {hashtags : Rows Tag} {tagLinks : Rows TagLink}
      {counters : Counters} (husers : counters.users = s.counters.users)
      (htweets : counters.tweets = s.counters.tweets) :
      Step s { s with notifications, hashtags, tagLinks, counters }

/-- Any number of small steps. -/
abbrev Steps : Store → Store → Prop := Relation.ReflTransGen Step

namespace Step

theorem changeReplies (k : Int) (f : Cell → Cell) : Step s (s.changeReplies k f) :=
  .recount fun _ ↦ ⟨rfl, rfl, rfl, rfl, rfl, rfl⟩

theorem changeRetweets (k : Int) (f : Cell → Cell) : Step s (s.changeRetweets k f) :=
  .recount fun _ ↦ ⟨rfl, rfl, rfl, rfl, rfl, rfl⟩

theorem changeLikes (k : Int) (f : Cell → Cell) : Step s (s.changeLikes k f) :=
  .recount fun _ ↦ ⟨rfl, rfl, rfl, rfl, rfl, rfl⟩

theorem changeFollowing (k : Int) (f : Cell → Cell) : Step s (s.changeFollowing k f) := .changeUser

theorem changeFollowers (k : Int) (f : Cell → Cell) : Step s (s.changeFollowers k f) := .changeUser

/-- What goes away with some roots takes along what refers to it. -/
theorem withoutDoomed {D roots : List Int}
    (hD : ∀ d, d ∈ D ↔ StoredTweet.Doomed s.tweets.list roots d) : Step s (s.withoutTweets D) :=
  .without fun _ ht _ hd href ↦ (hD _).2 (.step ht href ((hD _).1 hd))

end Step

/-- **Every change consists of small steps.** -/
theorem Change.steps (h : Change now s s') : Steps s s' := by
  cases h with
  | register h =>
    obtain ⟨_, _, hlast, hlist, rfl⟩ := of_createUser h
    exact .single (.addUser hlast hlist)
  | @post _ _ parent _ _ seen h =>
    obtain ⟨tweets, hposted, rfl⟩ := of_createTweet h
    have hstep : Step s (s.withPosted tweets) :=
      .post hposted seen (fun _ hr ↦ nomatch hr) (.inr rfl)
    cases parent with
    | none => exact .single hstep
    | some p => exact .tail (.single hstep) (.changeReplies p _)
  | delete seen h =>
    rcases of_deleteTweet h with ⟨-, rfl⟩ | ⟨-, t, -, -, -, D, hD, rfl⟩
    · exact .refl
    · cases t.parentId with
      | none => exact .single (.withoutDoomed hD)
      | some p => exact .tail (.single (.withoutDoomed hD)) (.changeReplies p _)
  | retweet seen h =>
    rcases of_createRetweet h with rfl | ⟨tweets, hposted, rfl⟩
    · exact .refl
    · refine .tail (.single (.post hposted (fun _ hp ↦ nomatch hp) (fun r hr ↦ ?_) (.inl rfl)))
        (.changeRetweets _ _)
      exact Option.some.inj hr ▸ seen
  | undo h =>
    rcases of_deleteRetweet h with ⟨-, rfl⟩ | ⟨-, r, -, -, -, D, hD, rfl⟩
    · exact .refl
    · exact .tail (.single (.withoutDoomed hD)) (.changeRetweets _ _)
  | like h =>
    rcases of_like h with ⟨-, rfl⟩ | ⟨-, l, likes, rfl, rfl, huser, htweet, hlist, rfl⟩
    · exact .refl
    · refine .tail ?_ (.changeLikes _ _)
      exact .single (.addLike huser htweet hlist)
  | unlike h =>
    rcases of_unlike h with ⟨-, rfl⟩ | ⟨-, _, -, -, -, rfl⟩
    · exact .refl
    · refine .tail ?_ (.changeLikes _ _)
      exact .single .keepLikes
  | follow h =>
    rcases of_follow h with ⟨-, rfl⟩ | ⟨-, f, follows, rfl, rfl, hne, hfollower, hfollowing, hlist,
      rfl⟩
    · exact .refl
    · refine .tail (.tail ?_ (.changeFollowing _ _)) (.changeFollowers _ _)
      exact .single (.addFollow hne hfollower hfollowing hlist)
  | unfollow h =>
    rcases of_unfollow h with ⟨-, rfl⟩ | ⟨-, _, -, -, -, rfl⟩
    · exact .refl
    · refine .tail (.tail ?_ (.changeFollowing _ _)) (.changeFollowers _ _)
      exact .single .keepFollows
  | profile h =>
    rcases of_writeProfile h with ⟨-, rfl⟩ | ⟨-, _, rfl⟩
    · exact .refl
    · exact .single .changeUser
  | notify h =>
    obtain ⟨_, _, -, -, -, -, -, -, rfl⟩ := of_createNotification h
    exact .single (.other rfl rfl)
  | markRead h =>
    obtain ⟨-, rfl⟩ := of_markRead h
    exact .single (.other rfl rfl)
  | tag h =>
    rcases of_addTag h with rfl | ⟨_, _, -, -, -, rfl⟩
    · exact .single (.other rfl rfl)
    · exact .single (.other rfl rfl)
  | link h =>
    rcases of_linkTag h with rfl | ⟨_, _, -, -, -, -, -, rfl⟩
    · exact .refl
    · exact .single (.other rfl rfl)

/-- What each small step keeps, any number of them keeps. -/
theorem Steps.keeps {P : Store → Prop} (hP : ∀ {s s'}, Step s s' → P s → P s')
    (h : Steps s s') (hs : P s) : P s' := by
  induction h with
  | refl => exact hs
  | tail _ hstep ih => exact hP hstep ih

/-- No account is ever taken out. -/
theorem Change.has_user (h : Change now s s') {id : Int} (hid : s.users.has id = true) :
    s'.users.has id = true := by
  refine h.steps.keeps (P := fun s ↦ s.users.has id = true) (fun hstep hid ↦ ?_) hid
  cases hstep with
  | addUser _ hlist => exact Rows.has_of_append hlist hid
  | changeUser => simpa using hid
  | _ => exact hid

end Store

end Microblog
