import Microblog.Proofs.Social.Paging
import Microblog.Proofs.Social.Staleness

/-!
# Reading never fails

After every run, a request that only reads succeeds on what is stored, and changes neither a table
nor a mailbox (`Social.run_reads`).

* What would make hydration fail is a tweet without its author.  A tweet of the store has one
  (`Store.Grounded.has_author`).
* The rows of the feed of everybody may come from the cache, and their tweets may be gone by then.
  Their authors are not, because no account is ever taken out (`Social.Moment.has_user`).
-/

set_option autoImplicit false

namespace Microblog

open Text

/-- Whether an operation is a request that writes to the cache at most. -/
def Operation.reads : Operation → Bool
  | .globalFeed .. | .trending .. => true
  | op => op.looks

namespace Social

/-! ## What a request answers -/

/-- The request for tweets is served: its answer has one item for each row that the store
selects. -/
def Serves (s : Social) (viewer : Option Int)
    (statement : Store → Except StoreError (List SeenTweet)) (request : Action (List Item)) :
    Prop :=
  ∃ rows found, statement s.store = .ok rows ∧ request.answer s = .ok found ∧
    List.Forall₂ (s.store.Fills viewer) rows found

/-- Reading succeeds in `s`, where `past` are the moments up to `s`. -/
structure Reads (past : Social → Prop) (lifetimes : Lifetimes) (s : Social) : Prop where
  /-- The rows of the feed of everybody are those of a recent moment, for a viewer those of the
  present; they are filled in from the store as it is. -/
  globalFeed : ∀ {page : Page}, page.Allowed → ∀ viewer, ∃ p rows found,
    Recent past lifetimes.feed s p ∧ (viewer ≠ none → p = s) ∧
    Store.globalFeed page viewer p.store = .ok rows ∧
    (Action.globalFeed page viewer).answer s = .ok found ∧
    List.Forall₂ (s.store.Fills viewer) rows found
  followingFeed : ∀ {page : Page}, page.Allowed → ∀ viewer,
    s.Serves (some viewer) (Store.followingFeed viewer page) (Action.followingFeed viewer page)
  userFeed : ∀ {page : Page}, page.Allowed → ∀ user viewer,
    s.Serves viewer (Store.userTweets user page viewer) (Action.userFeed user page viewer)
  replies : ∀ {page : Page}, page.Allowed → ∀ tweet viewer,
    s.Serves viewer (Store.replies tweet page viewer) (Action.replies tweet page viewer)
  searchTweets : ∀ {page : Page}, page.Allowed → ∀ query viewer, s.store.WithinLimits query →
    s.Serves viewer (Store.searchTweets query page viewer) (Action.searchTweets query page viewer)
  getTweet : ∀ tweet viewer,
    if s.store.tweets.has tweet then
      ∃ i, (Action.getTweet tweet viewer).answer s = .ok i ∧ i.tweet.id = tweet
    else ∃ f, (Action.getTweet tweet viewer).answer s = .error f ∧ f.report.kind = .notFound
  getUser : ∀ user viewer,
    if s.store.users.has user then
      ∃ a, (Action.getUser user viewer).answer s = .ok a ∧ a.user.id = user
    else ∃ f, (Action.getUser user viewer).answer s = .error f ∧ f.report.kind = .notFound
  /-- Reading changes no table and no mailbox. -/
  unchanged : ∀ op : Operation, op.reads = true →
    (s.perform op).store = s.store ∧ (s.perform op).broker = s.broker

section Requests

variable {s : Social} {viewer : Option Int}

/-- A request that fills in the rows of a statement succeeds when the statement does. -/
theorem serves_of_rows (h : s.store.Readable)
    {statement : Store → Except StoreError (List SeenTweet)} {rows : List SeenTweet}
    (hrows : statement s.store = .ok rows) (hshows : ∀ row ∈ rows, s.store.Shows viewer row)
    (hlength : rows.length ≤ 50) :
    s.Serves viewer statement (Action.ask statement >>= Action.items viewer) := by
  obtain ⟨found, hfound⟩ := Action.answer_items_eq_ok h viewer hshows
    (Hydration.fits_of_le hlength)
  refine ⟨rows, found, hrows, ?_, Action.fills_of_items hfound⟩
  rw [Action.answer_bind_of_ok (.ask _) ((Action.answer_ask_eq_ok_iff s).2 hrows)]
  exact hfound

/-- A page has no more rows than may be asked for. -/
theorem length_of_listTweets {store : Store} {task : String} {p : StoredTweet → Bool}
    {order : StoredTweet → StoredTweet → Bool} {page : Page} (hpage : page.Allowed)
    {rows : List SeenTweet} (hrows : store.listTweets task p order page viewer = .ok rows) :
    rows.length ≤ 50 := by
  rw [Store.listTweets, during_eq_ok_iff, bind_eq_ok_iff] at hrows
  obtain ⟨-, -, hrows⟩ := hrows
  rw [← (Store.forall₂_of_mapM hrows).length_eq]
  exact hpage.length_of_le _

theorem serves_listing (h : s.store.Readable) {page : Page} (hpage : page.Allowed)
    {statement : Store → Except StoreError (List SeenTweet)} {task : String}
    {p : StoredTweet → Bool} {order : StoredTweet → StoredTweet → Bool}
    (hstatement : statement s.store = s.store.listTweets task p order page viewer) :
    s.Serves viewer statement (Action.ask statement >>= Action.items viewer) := by
  obtain ⟨rows, hrows⟩ := h.listTweets_eq_ok task p order page viewer
  exact serves_of_rows h (hstatement.trans hrows) (Store.shows_of_listTweets hrows)
    (length_of_listTweets hpage hrows)

theorem serves_searchTweets (h : s.store.Readable) {page : Page} (hpage : page.Allowed)
    {query : String} (hlimits : s.store.WithinLimits query) :
    s.Serves viewer (Store.searchTweets query page viewer)
      (Action.searchTweets query page viewer) := by
  obtain ⟨task, p, hstatement, -⟩ := h.searchTweets_eq hlimits
  rw [Serves, Action.answer_searchTweets]
  exact serves_listing h hpage (hstatement page viewer)

/-! ## Single tweets and accounts -/

theorem getTweet_eq_error (h : s.store.Readable) {tweet : Int}
    (htweet : s.store.tweets.has tweet = false) :
    (Action.getTweet tweet viewer).answer s = .error .noTweet := by
  have hnone := h.seenTweet?_eq_none viewer htweet
  rw [Action.getTweet,
    Action.answer_bind_of_ok (.ask _) ((Action.answer_ask_eq_ok_iff s).2 hnone)]
  rfl

theorem getUser_eq_ok (h : s.store.Readable) {user : Int}
    (huser : s.store.users.has user = true) :
    ∃ a, (Action.getUser user viewer).answer s = .ok a ∧ a.user.id = user := by
  obtain ⟨a, ha, hid⟩ := h.seenUser?_eq_ok viewer huser
  refine ⟨a, ?_, hid⟩
  rw [Action.getUser, Action.answer_bind_of_ok (.ask _) ((Action.answer_ask_eq_ok_iff s).2 ha)]
  rfl

theorem getUser_eq_error (h : s.store.Readable) {user : Int}
    (huser : s.store.users.has user = false) :
    (Action.getUser user viewer).answer s = .error .noUser := by
  have hnone := h.seenUser?_eq_none viewer huser
  rw [Action.getUser, Action.answer_bind_of_ok (.ask _) ((Action.answer_ask_eq_ok_iff s).2 hnone)]
  rfl

end Requests

/-! ## What is left alone -/

theorem unchanged_of_reads {op : Operation} (h : op.reads = true) (s : Social) :
    (s.perform op).store = s.store ∧ (s.perform op).broker = s.broker := by
  cases hlooks : op.looks with
  | true =>
    rw [perform_of_looks hlooks]
    exact ⟨rfl, rfl⟩
  | false =>
    cases op with
    | globalFeed page viewer =>
      obtain rfl : viewer = none :=
        Option.isNone_iff_eq_none.1 (Option.isSome_eq_false_iff.1 hlooks)
      refine ⟨(Action.Keeps.globalFeed page none).store s, ?_⟩
      exact Action.part_after_bind s Social.broker
        (Action.part_after_cached Social.broker (fun _ _ ↦ rfl) fun s ↦ by rw [Action.after_ask])
        fun rows s ↦ by rw [(Action.Looks.items none rows).after]
    | trending limit =>
      refine ⟨(Action.Keeps.trending limit).store s, ?_⟩
      exact Action.part_after_cached Social.broker (fun _ _ ↦ rfl)
        (fun s ↦ by rw [Action.after_freshTrending]) s
    | _ => exact absurd (hlooks.symm.trans h) Bool.false_ne_true

/-! ## The feed of everybody -/

/-- Who had an account at some moment of a run has it for the rest of the run. -/
theorem Moment.has_user {start p : Social} {ops : List Operation} (h : Moment start ops p)
    {id : Int} (hid : p.store.users.has id = true) :
    (start.run ops).store.users.has id = true := by
  obtain ⟨done, ⟨rest, rfl⟩, rfl⟩ := h
  rw [run_append]
  exact run_keeps (P := fun store ↦ store.users.has id = true)
    (fun hchange ↦ hchange.has_user) _ rest hid

/-- The feed of everybody is filled in, whether its rows are in the cache or not. -/
theorem answer_globalFeed {past : Social → Prop} {lifetimes : Lifetimes} {s : Social}
    (hpast : ∀ p, past p → p.Precedes s)
    (husers : ∀ p id, past p → p.store.users.has id = true → s.store.users.has id = true)
    (h : s.Remembers past lifetimes) (hs : past s) {page : Page} (hpage : page.Allowed)
    (viewer : Option Int) : ∃ p rows found,
      Recent past lifetimes.feed s p ∧ (viewer ≠ none → p = s) ∧
      Store.globalFeed page viewer p.store = .ok rows ∧
      (Action.globalFeed page viewer).answer s = .ok found ∧
      List.Forall₂ (s.store.Fills viewer) rows found := by
  have hreadable := (hpast s hs).readable
  cases viewer with
  | some viewer =>
    have hserves : s.Serves (some viewer) (Store.globalFeed page (some viewer))
        (Action.globalFeed page (some viewer)) := serves_listing hreadable hpage rfl
    obtain ⟨rows, found, hrows, hfound, hfills⟩ := hserves
    exact ⟨s, rows, found, ⟨hs, Nat.le_refl _, .inl rfl⟩, fun _ ↦ rfl, hrows, hfound, hfills⟩
  | none =>
    obtain ⟨p, rows, hrecent, hrows, hanswer⟩ := answer_feedRows hpast h hs page
    -- the tweets may be gone by now, but their authors are not
    have hauthors : ∀ row ∈ rows, s.store.users.has row.tweet.userId = true := fun row hrow ↦
      husers p _ hrecent.past ((hpast p hrecent.past).readable.grounded.has_author
        (Store.shows_of_listTweets hrows row hrow))
    obtain ⟨found, hfound⟩ := Action.answer_items_of_authors hreadable none hauthors
      (Hydration.fits_of_le (length_of_listTweets hpage hrows))
    refine ⟨p, rows, found, hrecent, fun hne ↦ absurd rfl hne, hrows, ?_,
      Action.fills_of_items hfound⟩
    have hstore : ((Action.feedRows page none).after s).store = s.store :=
      (Action.Keeps.cached (Action.Looks.ask _).keeps).store s
    rw [Action.globalFeed, Action.answer_bind, hanswer]
    exact ((Action.Looks.items none rows).answer _ _ hstore).trans hfound

/-! ## Runs -/

/-- **In every run reading succeeds**, whether there is a cache or not, and it changes no table and
no mailbox. -/
theorem run_reads (capacity : Nat) (cached : Bool) (lifetimes : Lifetimes)
    (ops : List Operation) :
    Reads (Moment (start capacity cached lifetimes) ops) lifetimes
      ((start capacity cached lifetimes).run ops) := by
  have hreadable := (run_readable capacity cached lifetimes ops).1
  exact {
    globalFeed := fun hpage viewer ↦ answer_globalFeed (fun _ hp ↦ run_precedes hp)
      (fun _ _ hp hid ↦ hp.has_user hid) (run_remembers capacity cached lifetimes ops)
      (Moment.last _ ops) hpage viewer
    followingFeed := fun hpage viewer ↦ serves_listing hreadable hpage rfl
    userFeed := fun hpage user viewer ↦ serves_listing hreadable hpage rfl
    replies := fun hpage tweet viewer ↦ serves_listing hreadable hpage rfl
    searchTweets := fun hpage query viewer hlimits ↦ serves_searchTweets hreadable hpage hlimits
    getTweet := fun tweet viewer ↦ by
      split
      · rename_i htweet
        exact Action.answer_getTweet_eq_ok hreadable viewer htweet
      · rename_i htweet
        exact ⟨_, getTweet_eq_error hreadable (Bool.eq_false_iff.2 htweet), rfl⟩
    getUser := fun user viewer ↦ by
      split
      · rename_i huser
        exact getUser_eq_ok hreadable huser
      · rename_i huser
        exact ⟨_, getUser_eq_error hreadable (Bool.eq_false_iff.2 huser), rfl⟩
    unchanged := fun op hop ↦ unchanged_of_reads hop _ }

end Social

end Microblog
