import Microblog.Proofs.Social.Items
import Microblog.Proofs.Social.Staleness

/-!
# What the viewer did

An account is shown with whether the viewer follows it, a tweet with whether the viewer likes it,
retweeted it and follows its author.  These marks reach an answer on different ways: with the rows
of a listing, from which they are put back after the tweets were hydrated, with the authors, and
with the tweets that are referred to.

`Social.run_marks` says that all of them are right, whatever shows them.  On different ways they
agree because a retweet record points at a tweet that is no record, so that both stand for the same
tweet.
-/

set_option autoImplicit false

namespace Microblog

namespace Store

/-! ## Marks -/

/-- The viewer follows an account. -/
def Following (s : Store) (viewer : Option Int) (user : Int) : Prop :=
  ∃ f ∈ s.follows.list, some f.followerId = viewer ∧ f.followingId = user

/-- The viewer likes a tweet. -/
def Liking (s : Store) (viewer : Option Int) (tweet : Int) : Prop :=
  ∃ l ∈ s.likes.list, some l.userId = viewer ∧ l.tweetId = tweet

/-- The viewer retweeted a tweet. -/
def Retweeting (s : Store) (viewer : Option Int) (tweet : Int) : Prop :=
  ∃ t ∈ s.tweets.list, t.retweetId = some tweet ∧ some t.userId = viewer

/-- The mark of an account is right. -/
structure MarksUser (s : Store) (viewer : Option Int) (a : SeenUser) : Prop where
  following : a.isFollowing = true ↔ s.Following viewer a.user.id
  /-- Who is no viewer follows nobody. -/
  anonymous : viewer = none → a.isFollowing = false

/-- The marks of an item are right.  Likes and retweets are about the target of its tweet: what a
retweet record points at, and else the tweet itself. -/
structure MarksItem (s : Store) (viewer : Option Int) (i : Item) : Prop where
  liked : i.flags.isLiked = true ↔ s.Liking viewer i.tweet.target
  retweeted : i.flags.isRetweeted = true ↔ s.Retweeting viewer i.tweet.target
  author : i.author.user.id = i.tweet.userId ∧ s.MarksUser viewer i.author
  following : i.flags.isFollowing = i.author.isFollowing
  /-- The tweet that is retweeted has the marks of the record. -/
  original : ∀ r, i.retweeted = some r → r.tweet.id = i.tweet.target ∧
    r.isLiked = i.flags.isLiked ∧ r.isRetweeted = i.flags.isRetweeted ∧
    s.MarksUser viewer r.author
  /-- Who is no viewer did nothing with the tweet. -/
  anonymous : viewer = none → i.flags = .none

variable {s : Store} {viewer : Option Int}

theorem follows?_iff {user : Int} : s.follows? viewer user = true ↔ s.Following viewer user := by
  simp only [follows?, List.any_eq_true, decide_eq_true_eq, Following]

theorem likes?_iff {tweet : Int} : s.likes? viewer tweet = true ↔ s.Liking viewer tweet := by
  simp only [likes?, List.any_eq_true, decide_eq_true_eq, Liking]

theorem retweets?_iff {tweet : Int} :
    s.retweets? viewer tweet = true ↔ s.Retweeting viewer tweet := by
  simp only [retweets?, List.any_eq_true, decide_eq_true_eq, Retweeting]

theorem Sees.marks {a : SeenUser} (h : s.Sees viewer a) : s.MarksUser viewer a where
  following := by rw [h.following, follows?_iff]
  anonymous hnone := by rw [h.following, hnone, follows?_none]

/-- A row that may be filled in for `viewer`: it is shown to the viewer, or there is no viewer and
it has no marks. -/
def Fresh (s : Store) (viewer : Option Int) (row : SeenTweet) : Prop :=
  s.Shows viewer row ∨ viewer = none ∧ row.flags = .none

theorem Fresh.flags {row : SeenTweet} (h : s.Fresh viewer row) :
    row.flags = s.flags viewer row.tweet := by
  rcases h with ⟨t, -, -, hflags⟩ | ⟨rfl, hflags⟩
  · exact hflags
  · rw [hflags, flags_none]

/-- What a record points at has the marks of the record. -/
theorem flags_of_cites (hg : s.Grounded) {row : SeenTweet} (hrow : s.Fresh viewer row)
    {r : Reference} (hr : s.Cites viewer r) (htarget : row.tweet.retweetId = some r.tweet.id) :
    r.isLiked = row.flags.isLiked ∧ r.isRetweeted = row.flags.isRetweeted := by
  rw [hr.liked, hr.retweeted, hrow.flags]
  rcases hrow with ⟨t, ht, hread, -⟩ | ⟨rfl, -⟩
  · obtain ⟨u, hu, huread⟩ := hr.stored
    obtain ⟨-, -, hretweet⟩ := of_readTweet hread
    obtain ⟨hid, -, hbare⟩ := of_readTweet huread
    -- the tweet that the record points at is the one that is cited, and no record itself
    obtain ⟨-, o, ho, hoid, hnone⟩ := hg.original t ht _ (hretweet.symm.trans htarget)
    obtain rfl : o = u := Rows.eq_of_key_eq ho hu (hoid.trans hid)
    have hcited : r.tweet.target = r.tweet.id := by rw [Tweet.target, hbare, hnone]; rfl
    have hrecord : row.tweet.target = r.tweet.id := by rw [Tweet.target, htarget]; rfl
    rw [flags, flags, hcited, hrecord]
    exact ⟨rfl, rfl⟩
  · rw [flags_none, flags_none]
    exact ⟨rfl, rfl⟩

/-- **The marks of an item that is filled in for `viewer` are right.** -/
theorem Fills.marks (hg : s.Grounded) {row : SeenTweet} (hrow : s.Fresh viewer row) {i : Item}
    (h : s.Fills viewer row i) : s.MarksItem viewer i where
  liked := by rw [h.flags, h.tweet, hrow.flags]; exact likes?_iff
  retweeted := by rw [h.flags, h.tweet, hrow.flags]; exact retweets?_iff
  author := ⟨h.authorOf.trans (congrArg Tweet.userId h.tweet.symm), h.author.marks⟩
  following := by
    rw [h.author.following, h.flags, hrow.flags, h.authorOf]
    rfl
  original r hr := by
    obtain ⟨hcites, htarget⟩ := h.retweeted r hr
    obtain ⟨hliked, hretweeted⟩ := flags_of_cites hg hrow hcites htarget
    refine ⟨?_, ?_, ?_, hcites.author.marks⟩
    · rw [h.tweet, Tweet.target, htarget]
      rfl
    · rw [h.flags, hliked]
    · rw [h.flags, hretweeted]
  anonymous hnone := by rw [h.flags, hrow.flags, hnone, flags_none]

end Store

/-! ## What is shown -/

/-- What the answer of an operation shows, and to whom. -/
structure Sight where
  viewer : Option Int
  users : List SeenUser
  items : List Item

namespace Sight

/-- An answer of accounts, or a failure, which shows nothing. -/
def ofUsers (viewer : Option Int) (answer : Except Failure (List SeenUser)) : Sight :=
  ⟨viewer, answer.toOption.getD [], []⟩

/-- An answer of items, or a failure, which shows nothing. -/
def ofItems (viewer : Option Int) (answer : Except Failure (List Item)) : Sight :=
  ⟨viewer, [], answer.toOption.getD []⟩

variable {viewer : Option Int}

theorem forall_users {answer : Except Failure (List SeenUser)} {P : SeenUser → Prop}
    (h : ∀ found, answer = .ok found → ∀ a ∈ found, P a) :
    ∀ a ∈ (ofUsers viewer answer).users, P a := by
  cases answer with
  | error e => exact fun _ ha ↦ absurd ha List.not_mem_nil
  | ok found => exact h found rfl

theorem forall_items {answer : Except Failure (List Item)} {P : Item → Prop}
    (h : ∀ found, answer = .ok found → ∀ i ∈ found, P i) :
    ∀ i ∈ (ofItems viewer answer).items, P i := by
  cases answer with
  | error e => exact fun _ hi ↦ absurd hi List.not_mem_nil
  | ok found => exact h found rfl

/-- A single value that is shown. -/
theorem forall_singleton {α : Type} {answer : Except Failure α} {P : α → Prop}
    (h : ∀ a, answer = .ok a → P a) {found : List α} (hfound : answer.map ([·]) = .ok found) :
    ∀ a ∈ found, P a := by
  cases answer with
  | error e => cases hfound
  | ok a =>
    obtain rfl := Except.ok.inj hfound
    exact List.forall_mem_singleton.2 (h a rfl)

end Sight

namespace Social

/-- What an operation shows: the accounts and items of its answer. -/
def sight (s : Social) : Operation → Sight
  | .getUser id viewer => .ofUsers viewer (((Action.getUser id viewer).answer s).map ([·]))
  | .followers user page viewer => .ofUsers viewer ((Action.followers user page viewer).answer s)
  | .following user page viewer => .ofUsers viewer ((Action.following user page viewer).answer s)
  | .suggested page viewer => .ofUsers viewer ((Action.suggested page viewer).answer s)
  | .searchUsers query page viewer =>
    .ofUsers viewer ((Action.searchUsers query page viewer).answer s)
  | .globalFeed page viewer => .ofItems viewer ((Action.globalFeed page viewer).answer s)
  | .followingFeed viewer page =>
    .ofItems (some viewer) ((Action.followingFeed viewer page).answer s)
  | .userFeed user page viewer => .ofItems viewer ((Action.userFeed user page viewer).answer s)
  | .replies tweet page viewer => .ofItems viewer ((Action.replies tweet page viewer).answer s)
  | .searchTweets query page viewer =>
    .ofItems viewer ((Action.searchTweets query page viewer).answer s)
  | .getTweet tweet viewer => .ofItems viewer (((Action.getTweet tweet viewer).answer s).map ([·]))
  | .createTweet user content parent =>
    .ofItems (some user) (((Action.createTweet user content parent).answer s).map ([·]))
  | .retweet user tweet =>
    .ofItems (some user) (((Action.retweet user tweet).answer s).map ([·]))
  | _ => ⟨none, [], []⟩

/-! ## Accounts -/

theorem sees_getUser {s : Social} {id : Int} {viewer : Option Int} {a : SeenUser}
    (h : (Action.getUser id viewer).answer s = .ok a) : s.store.Sees viewer a := by
  obtain ⟨o, ho, h⟩ := Action.of_answer_bind s h
  rw [Action.answer_orFail_eq_ok_iff] at h
  subst h
  exact Store.sees_of_seenUser? ((Action.answer_ask_eq_ok_iff s).1 ho)

theorem sees_suggested {s : Social} {page : Page} {viewer : Option Int} {found : List SeenUser}
    (h : (Action.suggested page viewer).answer s = .ok found) :
    ∀ a ∈ found, s.store.Sees viewer a := by
  cases viewer with
  | some viewer => exact Store.sees_of_suggestedUsers ((Action.answer_ask_eq_ok_iff s).1 h)
  | none =>
    obtain ⟨users, husers, h⟩ := Action.of_answer_bind s h
    obtain rfl := Except.ok.inj h
    exact List.forall_mem_map.2
      (Store.sees_of_topUsers ((Action.answer_ask_eq_ok_iff s).1 husers))

theorem sees_searchUsers {s : Social} {query : String} {page : Page} {viewer : Option Int}
    {found : List SeenUser} (h : (Action.searchUsers query page viewer).answer s = .ok found) :
    ∀ a ∈ found, s.store.Sees viewer a := by
  rw [Action.searchUsers] at h
  split at h
  · obtain rfl := Except.ok.inj h
    exact fun _ ha ↦ absurd ha List.not_mem_nil
  · exact Store.sees_of_searchUsers ((Action.answer_ask_eq_ok_iff s).1 h)

/-- Every account that an operation shows is shown as it is in the store. -/
theorem sees_of_mem_sight (s : Social) (op : Operation) :
    ∀ a ∈ (s.sight op).users, (s.perform op).store.Sees (s.sight op).viewer a := by
  cases op with
  | getUser id viewer =>
    rw [perform_of_looks rfl]
    exact Sight.forall_users fun found h ↦ Sight.forall_singleton (fun a ↦ sees_getUser) h
  | followers user page viewer =>
    rw [perform_of_looks rfl]
    exact Sight.forall_users fun found h ↦
      Store.sees_of_listFollows ((Action.answer_ask_eq_ok_iff s).1 h)
  | following user page viewer =>
    rw [perform_of_looks rfl]
    exact Sight.forall_users fun found h ↦
      Store.sees_of_listFollows ((Action.answer_ask_eq_ok_iff s).1 h)
  | suggested page viewer =>
    rw [perform_of_looks rfl]
    exact Sight.forall_users fun found h ↦ sees_suggested h
  | searchUsers query page viewer =>
    rw [perform_of_looks rfl]
    exact Sight.forall_users fun found h ↦ sees_searchUsers h
  | _ => exact fun _ ha ↦ absurd ha List.not_mem_nil

/-! ## Items -/

section Items

variable {s : Social} {viewer : Option Int}

/-- Items of fresh rows are marked right. -/
theorem marks_items (hg : s.store.Grounded) {rows : List SeenTweet} {found : List Item}
    (hrows : ∀ row ∈ rows, s.store.Fresh viewer row)
    (h : (Action.items viewer rows).answer s = .ok found) :
    ∀ i ∈ found, s.store.MarksItem viewer i := by
  intro i hi
  obtain ⟨row, hrow, hfills⟩ := Store.exists_of_forall₂ (Action.fills_of_items h) hi
  exact hfills.marks hg (hrows row hrow)

/-- Items of rows that were asked for are marked right. -/
theorem marks_listing (hg : s.store.Grounded)
    {statement : Store → Except StoreError (List SeenTweet)} {found : List Item}
    (h : (Action.ask statement >>= Action.items viewer).answer s = .ok found)
    (hshows : ∀ rows, statement s.store = .ok rows → ∀ row ∈ rows, s.store.Shows viewer row) :
    ∀ i ∈ found, s.store.MarksItem viewer i := by
  obtain ⟨rows, hrows, h⟩ := Action.of_answer_bind s h
  rw [Action.after_ask] at h
  have hfresh := hshows rows ((Action.answer_ask_eq_ok_iff s).1 hrows)
  exact marks_items hg (fun row hrow ↦ .inl (hfresh row hrow)) h

theorem marks_getTweet (hg : s.store.Grounded) {tweet : Int} {i : Item}
    (h : (Action.getTweet tweet viewer).answer s = .ok i) : s.store.MarksItem viewer i := by
  obtain ⟨o, ho, h⟩ := Action.of_answer_bind s h
  rw [Action.after_ask] at h
  obtain ⟨row, hrow, hitem⟩ := Action.of_answer_bind s h
  rw [Action.after_orFail] at hitem
  obtain ⟨found, hfound, hhead⟩ := Action.of_answer_bind s hitem
  obtain rfl := (Action.answer_orFail_eq_ok_iff s).1 hrow
  have hshows := Store.shows_of_seenTweet? ((Action.answer_ask_eq_ok_iff s).1 ho)
  have hmem : i ∈ found := List.mem_of_mem_head? ((Action.answer_orFail_eq_ok_iff _).1 hhead)
  exact marks_items hg (List.forall_mem_singleton.2 (.inl hshows)) hfound i hmem

theorem marks_searchTweets (hg : s.store.Grounded) {query : String} {page : Page}
    {found : List Item} (h : (Action.searchTweets query page viewer).answer s = .ok found) :
    ∀ i ∈ found, s.store.MarksItem viewer i := by
  rw [Action.searchTweets] at h
  split at h
  · split at h
    · obtain rfl := Except.ok.inj h
      exact fun _ hi ↦ absurd hi List.not_mem_nil
    · exact marks_listing hg h fun _ ↦ Store.shows_of_tweetsByHashtag
  · split at h
    · obtain rfl := Except.ok.inj h
      exact fun _ hi ↦ absurd hi List.not_mem_nil
    · exact marks_listing hg h fun _ ↦ Store.shows_of_tweetsByTerms

theorem marks_globalFeed (hg : s.store.Grounded)
    (hfeed : ∀ page rows, (Action.feedRows page none).answer s = .ok rows →
      ∀ row ∈ rows, row.flags = .none) {page : Page} {found : List Item}
    (h : (Action.globalFeed page viewer).answer s = .ok found) :
    ∀ i ∈ found, s.store.MarksItem viewer i := by
  cases viewer with
  | some viewer => exact marks_listing hg h fun _ ↦ Store.shows_of_listTweets
  | none =>
    obtain ⟨rows, hrows, h⟩ := Action.of_answer_bind s h
    have hstore : ((Action.feedRows page none).after s).store = s.store :=
      (Action.Keeps.cached (Action.Looks.ask _).keeps).store s
    rw [(Action.Looks.items none rows).answer _ s hstore] at h
    exact marks_items hg (fun row hrow ↦ .inr ⟨rfl, hfeed page rows hrows row hrow⟩) h

/-! A request that writes shows what it has made as it is afterwards. -/

/-- The answer is a look at a single tweet, after all else was done. -/
def EndsWithTweet (viewer : Option Int) (a : Action Item) : Prop :=
  ∀ s i, a.answer s = .ok i → ∃ tweet, (Action.getTweet tweet viewer).answer (a.after s) = .ok i

theorem EndsWithTweet.getTweet (tweet : Int) (viewer : Option Int) :
    EndsWithTweet viewer (Action.getTweet tweet viewer) := by
  intro s i h
  refine ⟨tweet, ?_⟩
  rw [(Action.Looks.getTweet tweet viewer).after]
  exact h

theorem EndsWithTweet.bind {α : Type} {a : Action α} {f : α → Action Item}
    (hf : ∀ x, EndsWithTweet viewer (f x)) : EndsWithTweet viewer (a >>= f) := by
  intro s i h
  obtain ⟨x, hx, h⟩ := Action.of_answer_bind s h
  rw [Action.after_bind, hx]
  exact hf x _ i h

theorem EndsWithTweet.createTweet (user : Int) (content : Option String) (parent : Option Int) :
    EndsWithTweet (some user) (Action.createTweet user content parent) := by
  refine bind fun content ↦ bind fun _ ↦ ?_
  cases parent with
  | none =>
    refine bind fun answered ↦ bind fun tweet ↦ ?_
    cases answered with
    | none => exact bind fun _ ↦ getTweet _ _
    | some answered => exact bind fun _ ↦ bind fun _ ↦ getTweet _ _
  | some id =>
    refine bind fun _ ↦ bind fun answered ↦ bind fun tweet ↦ ?_
    cases answered with
    | none => exact bind fun _ ↦ getTweet _ _
    | some answered => exact bind fun _ ↦ bind fun _ ↦ getTweet _ _

theorem EndsWithTweet.retweet (user tweet : Int) :
    EndsWithTweet (some user) (Action.retweet user tweet) :=
  bind fun _ ↦ bind fun _ ↦ bind fun _ ↦ bind fun _ ↦ bind fun _ ↦ getTweet _ _

theorem marks_of_endsWithTweet {a : Action Item} (ha : EndsWithTweet viewer a)
    (hg : (a.after s).store.Grounded) {i : Item} (h : a.answer s = .ok i) :
    (a.after s).store.MarksItem viewer i := by
  obtain ⟨tweet, htweet⟩ := ha s i h
  exact marks_getTweet hg htweet

end Items

/-- Every item that an operation shows is marked right. -/
theorem marks_of_mem_sight {s : Social} (hg : s.store.Grounded)
    (hfeed : ∀ page rows, (Action.feedRows page none).answer s = .ok rows →
      ∀ row ∈ rows, row.flags = .none) (op : Operation) :
    ∀ i ∈ (s.sight op).items, (s.perform op).store.MarksItem (s.sight op).viewer i := by
  have hafter : (s.perform op).store.Grounded :=
    (changes_perform s op).keeps Store.Grounded.change hg
  cases op with
  | globalFeed page viewer =>
    rw [show (s.perform (.globalFeed page viewer)).store = s.store from
      (Action.Keeps.globalFeed page viewer).store s]
    exact Sight.forall_items fun found h ↦ marks_globalFeed hg hfeed h
  | followingFeed viewer page =>
    rw [perform_of_looks rfl]
    exact Sight.forall_items fun found h ↦
      marks_listing hg h fun _ ↦ Store.shows_of_listTweets
  | userFeed user page viewer =>
    rw [perform_of_looks rfl]
    exact Sight.forall_items fun found h ↦
      marks_listing hg h fun _ ↦ Store.shows_of_listTweets
  | replies tweet page viewer =>
    rw [perform_of_looks rfl]
    exact Sight.forall_items fun found h ↦
      marks_listing hg h fun _ ↦ Store.shows_of_listTweets
  | searchTweets query page viewer =>
    rw [perform_of_looks rfl]
    exact Sight.forall_items fun found h ↦ marks_searchTweets hg h
  | getTweet tweet viewer =>
    rw [perform_of_looks rfl]
    exact Sight.forall_items fun found h ↦
      Sight.forall_singleton (fun i ↦ marks_getTweet hg) h
  | createTweet user content parent =>
    exact Sight.forall_items fun found h ↦ Sight.forall_singleton
      (fun i ↦ marks_of_endsWithTweet (.createTweet user content parent) hafter) h
  | retweet user tweet =>
    exact Sight.forall_items fun found h ↦ Sight.forall_singleton
      (fun i ↦ marks_of_endsWithTweet (.retweet user tweet) hafter) h
  | _ => exact fun _ hi ↦ absurd hi List.not_mem_nil

/-- All marks that an operation shows are right in the store that it leaves. -/
structure ShowsMarks (s : Social) (op : Operation) : Prop where
  users : ∀ a ∈ (s.sight op).users, (s.perform op).store.MarksUser (s.sight op).viewer a
  items : ∀ i ∈ (s.sight op).items, (s.perform op).store.MarksItem (s.sight op).viewer i

/-- **In every run all marks are right, whatever shows them**: those of accounts, those of tweets
and those of the tweets that are retweeted, and who is no viewer sees no mark at all. -/
theorem run_marks (capacity : Nat) (cached : Bool) (lifetimes : Lifetimes) (ops : List Operation)
    (op : Operation) : ((start capacity cached lifetimes).run ops).ShowsMarks op := by
  have hg := run_grounded capacity cached lifetimes ops
  refine ⟨fun a ha ↦ (sees_of_mem_sight _ op a ha).marks, marks_of_mem_sight hg ?_ op⟩
  intro page rows hrows row hrow
  obtain ⟨p, rows', -, hlisted, hanswer⟩ := answer_feedRows (fun p hp ↦ run_precedes hp)
    (run_remembers capacity cached lifetimes ops) (Moment.last _ ops) page
  obtain rfl : rows' = rows := Except.ok.inj (hanswer.symm.trans hrows)
  obtain ⟨t, -, -, hflags⟩ := Store.shows_of_listTweets hlisted row hrow
  rw [hflags, Store.flags_none]

end Social

end Microblog
