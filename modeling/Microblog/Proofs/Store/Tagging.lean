import Microblog.Proofs.Store.Failing
import Microblog.Text.Hashtag

/-!
# The index of hashtags

The store links tweets to hashtags, and `Store.tagNames` reads off the links which hashtags a tweet
carries.  `Store.Indexed` says that these are the hashtags in the text of the tweet, in their order,
and that a link names a hashtag that is stored.

* A tweet is indexed after it was posted, one hashtag after the other.  In between some hashtags of
  one tweet are missing, and `Store.IndexedBut` says which.
* A hashtag is recorded in three statements: it is added unless it is there, its number is looked
  up, and the tweet is linked to it.  Each of them succeeds while there are numbers left
  (`Store.Orderly.addTag_eq_ok`, `Store.exists_tagId_eq_ok`, `Store.Orderly.linkTag_eq_ok`), and the
  last one takes the first hashtag off those that are missing (`Store.IndexedBut.linkTag`).
* The other statements leave the index (`Store.Untagged`): what takes tweets out takes their links
  along, and counters do not matter.
-/

set_option autoImplicit false

namespace Microblog

open Text

/-- The hashtags in the text of a tweet. -/
def StoredTweet.hashtags (t : StoredTweet) : List String := (t.content.map Text.hashtags).getD []

theorem nodup_eraseDups {α : Type} [DecidableEq α] (as : List α) : as.eraseDups.Nodup := by
  match as with
  | [] => exact List.nodup_nil
  | a :: as =>
    rw [List.eraseDups_cons, List.nodup_cons]
    exact ⟨by simp, nodup_eraseDups _⟩
termination_by as.length
decreasing_by exact Nat.lt_succ_of_le (List.length_filter_le _ _)

/-- A text has no hashtag twice. -/
theorem StoredTweet.nodup_hashtags (t : StoredTweet) : t.hashtags.Nodup := by
  rw [hashtags]
  cases t.content with
  | none => exact List.nodup_nil
  | some text => exact nodup_eraseDups _

namespace Store

variable {now : Nat} {s s' : Store}

/-- Every tweet carries the hashtags in its text but for the last ones, which are `missing`, and
every link names a stored hashtag. -/
structure IndexedBut (missing : Int → List String) (s : Store) : Prop where
  names : ∀ t ∈ s.tweets.list, s.tagNames t.id ++ missing t.id = t.hashtags
  linked : ∀ l ∈ s.tagLinks.list, s.hashtags.has l.tagId = true

/-- Every tweet carries the hashtags in its text, and every link names a stored hashtag. -/
abbrev Indexed (s : Store) : Prop := s.IndexedBut fun _ ↦ []

theorem Indexed.tagNames_eq (h : s.Indexed) {t : StoredTweet} (ht : t ∈ s.tweets.list) :
    s.tagNames t.id = t.hashtags := by
  rw [← h.names t ht, List.append_nil]

/-- What is missing when only `tweet` lacks hashtags. -/
def lacking (tweet : Int) (tags : List String) (id : Int) : List String :=
  if id = tweet then tags else []

theorem lacking_nil (tweet : Int) : lacking tweet [] = fun _ ↦ [] := funext fun _ ↦ ite_self _

/-! ## Reading the index -/

/-- Nothing is linked to a tweet that no link names. -/
theorem tagNames_eq_nil {tweet : Int} (h : ∀ l ∈ s.tagLinks.list, l.tweetId ≠ tweet) :
    s.tagNames tweet = [] := by
  rw [tagNames, List.filterMap_eq_nil_iff]
  exact fun l hl ↦ if_neg (h l hl)

/-- Taking out other tweets leaves the hashtags of a tweet. -/
theorem tagNames_without {D : List Int} {tweet : Int} (h : D.contains tweet = false) :
    (s.withoutTweets D).tagNames tweet = s.tagNames tweet := by
  show (s.tagLinks.list.filter fun l ↦ !D.contains l.tweetId).filterMap _ = _
  rw [List.filterMap_filter]
  refine List.filterMap_congr fun l _ ↦ ?_
  by_cases hl : l.tweetId = tweet
  · rw [hl, h]
    rfl
  · simp only [if_neg hl, ite_self]

/-- A hashtag that is new is carried by no tweet. -/
theorem tagNames_addTag {hashtags : Rows Tag} {tag : Tag}
    (hlist : hashtags.list = s.hashtags.list ++ [tag])
    (hlinked : ∀ l ∈ s.tagLinks.list, s.hashtags.has l.tagId = true) (tweet : Int) :
    ({ s with hashtags } : Store).tagNames tweet = s.tagNames tweet := by
  refine List.filterMap_congr fun l hl ↦ ?_
  obtain ⟨old, hget⟩ := Option.isSome_iff_exists.1 (hlinked l hl)
  obtain ⟨hold, hid⟩ := Rows.get?_eq_some_iff.1 hget
  have hget' : hashtags.get? l.tagId = some old :=
    Rows.get?_eq_some_iff.2 ⟨hlist ▸ List.mem_append_left _ hold, hid⟩
  dsimp only
  rw [hget, hget']

/-- A new link is one more hashtag of its tweet, the last one. -/
theorem tagNames_linkTag {tagLinks : Rows TagLink} {l : TagLink} {tag : Tag}
    (hlist : tagLinks.list = s.tagLinks.list ++ [l]) (htag : s.hashtags.get? l.tagId = some tag)
    (tweet : Int) : ({ s with tagLinks } : Store).tagNames tweet =
      s.tagNames tweet ++ if l.tweetId = tweet then [tag.name] else [] := by
  rw [tagNames]
  dsimp only
  rw [hlist, List.filterMap_append]
  refine congrArg (s.tagNames tweet ++ ·) ?_
  by_cases h : l.tweetId = tweet
  · simp [h, htag]
  · simp [h]

/-- A tweet carries what it is linked to. -/
theorem mem_tagNames {tweet : Int} {tag : Tag} (htag : tag ∈ s.hashtags.list)
    (hlink : s.tagLinks.has (tweet, tag.id) = true) : tag.name ∈ s.tagNames tweet := by
  obtain ⟨l, hl, hkey⟩ := Rows.has_iff.1 hlink
  obtain ⟨htweet, hid⟩ := Prod.mk.inj hkey
  refine List.mem_filterMap.2 ⟨l, hl, ?_⟩
  have hget : s.hashtags.get? tag.id = some tag := Rows.get?_eq_some_iff.2 ⟨htag, rfl⟩
  rw [if_pos htweet, hid, hget, Option.map_some]

/-! ## Changes that leave the index -/

namespace IndexedBut

variable {missing : Int → List String}

theorem of_eq (h : s.IndexedBut missing) (htweets : s'.tweets = s.tweets)
    (hhashtags : s'.hashtags = s.hashtags) (hlinks : s'.tagLinks = s.tagLinks) :
    s'.IndexedBut missing where
  names t ht := by
    rw [tagNames, hhashtags, hlinks]
    exact h.names t (htweets ▸ ht)
  linked l hl := by
    rw [hhashtags]
    exact h.linked l (hlinks ▸ hl)

/-- The counters of a tweet do not matter. -/
theorem recount {k : Int} {f : StoredTweet → StoredTweet}
    {hkey : ∀ t, Row.key (f t) = Row.key t} (hf : ∀ t, (f t).Alike t)
    (h : s.IndexedBut missing) :
    ({ s with tweets := s.tweets.changeAt k f hkey } : Store).IndexedBut missing where
  names := by
    refine Rows.forall_changeAt hkey (fun t ht ↦ ?_) h.names
    rw [(hf t).id, StoredTweet.hashtags, (hf t).content]
    exact ht
  linked := h.linked

theorem changeReplies (h : s.IndexedBut missing) (k : Int) (f : Cell → Cell) :
    (s.changeReplies k f).IndexedBut missing :=
  h.recount fun _ ↦ ⟨rfl, rfl, rfl, rfl, rfl, rfl⟩

theorem changeRetweets (h : s.IndexedBut missing) (k : Int) (f : Cell → Cell) :
    (s.changeRetweets k f).IndexedBut missing :=
  h.recount fun _ ↦ ⟨rfl, rfl, rfl, rfl, rfl, rfl⟩

theorem changeLikes (h : s.IndexedBut missing) (k : Int) (f : Cell → Cell) :
    (s.changeLikes k f).IndexedBut missing :=
  h.recount fun _ ↦ ⟨rfl, rfl, rfl, rfl, rfl, rfl⟩

/-- Tweets take their links along. -/
theorem without (h : s.IndexedBut missing) (D : List Int) :
    (s.withoutTweets D).IndexedBut missing where
  names t ht := by
    obtain ⟨ht, hleft⟩ := Rows.mem_keep.1 ht
    rw [Bool.not_eq_true'] at hleft
    rw [tagNames_without hleft]
    exact h.names t ht
  linked l hl := h.linked l (Rows.mem_keep.1 hl).1

end IndexedBut

/-- No number of a hashtag was given, and what was indexed is indexed. -/
structure Untagged (s s' : Store) : Prop where
  counter : s'.counters.hashtags = s.counters.hashtags
  indexed : ∀ {missing}, s.IndexedBut missing → s'.IndexedBut missing

theorem Untagged.of_eq (hcounter : s'.counters.hashtags = s.counters.hashtags)
    (htweets : s'.tweets = s.tweets) (hhashtags : s'.hashtags = s.hashtags)
    (hlinks : s'.tagLinks = s.tagLinks) : s.Untagged s' :=
  ⟨hcounter, fun h ↦ h.of_eq htweets hhashtags hlinks⟩

theorem Untagged.refl (s : Store) : s.Untagged s := of_eq rfl rfl rfl rfl

theorem untagged_createUser {new : NewUser} {u : User}
    (hrun : s.createUser now new = .ok (u, s')) : s.Untagged s' := by
  obtain ⟨_, _, -, -, rfl⟩ := of_createUser hrun
  exact .of_eq rfl rfl rfl rfl

theorem untagged_deleteTweet {id user : Int} {b : Bool}
    (hrun : s.deleteTweet id user = .ok (b, s')) : s.Untagged s' := by
  rcases of_deleteTweet hrun with ⟨-, rfl⟩ | ⟨-, t, -, -, -, D, -, rfl⟩
  · exact .refl _
  · cases t.parentId with
    | none => exact ⟨rfl, fun h ↦ h.without D⟩
    | some p => exact ⟨rfl, fun h ↦ (h.without D).changeReplies p _⟩

theorem untagged_deleteRetweet {user target : Int} {b : Bool}
    (hrun : s.deleteRetweet user target = .ok (b, s')) : s.Untagged s' := by
  rcases of_deleteRetweet hrun with ⟨-, rfl⟩ | ⟨-, _, -, -, -, D, -, rfl⟩
  · exact .refl _
  · exact ⟨rfl, fun h ↦ (h.without D).changeRetweets target _⟩

theorem untagged_like {user tweet : Int} {b : Bool}
    (hrun : s.like now user tweet = .ok (b, s')) : s.Untagged s' := by
  rcases of_like hrun with ⟨-, rfl⟩ | ⟨-, _, likes, -, -, -, -, -, rfl⟩
  · exact .refl _
  · refine ⟨rfl, fun h ↦ IndexedBut.changeLikes ?_ tweet _⟩
    exact h.of_eq rfl rfl rfl

theorem untagged_unlike {user tweet : Int} {b : Bool}
    (hrun : s.unlike user tweet = .ok (b, s')) : s.Untagged s' := by
  rcases of_unlike hrun with ⟨-, rfl⟩ | ⟨-, _, -, -, -, rfl⟩
  · exact .refl _
  · refine ⟨rfl, fun h ↦ IndexedBut.changeLikes ?_ tweet _⟩
    exact h.of_eq rfl rfl rfl

theorem untagged_follow {follower target : Int} {b : Bool}
    (hrun : s.follow now follower target = .ok (b, s')) : s.Untagged s' := by
  rcases of_follow hrun with ⟨-, rfl⟩ | ⟨-, _, _, -, -, -, -, -, -, rfl⟩
  · exact .refl _
  · exact .of_eq rfl rfl rfl rfl

theorem untagged_unfollow {follower target : Int} {b : Bool}
    (hrun : s.unfollow follower target = .ok (b, s')) : s.Untagged s' := by
  rcases of_unfollow hrun with ⟨-, rfl⟩ | ⟨-, _, -, -, -, rfl⟩
  · exact .refl _
  · exact .of_eq rfl rfl rfl rfl

theorem untagged_writeProfile {id : Int} {profile : Profile} {b : Bool}
    (hrun : s.writeProfile now id profile = .ok (b, s')) : s.Untagged s' := by
  rcases of_writeProfile hrun with ⟨-, rfl⟩ | ⟨-, _, rfl⟩
  · exact .refl _
  · exact .of_eq rfl rfl rfl rfl

theorem untagged_markRead {recipient : Int} {n : Nat}
    (hrun : s.markRead recipient = .ok (n, s')) : s.Untagged s' := by
  obtain ⟨-, rfl⟩ := of_markRead hrun
  exact .of_eq rfl rfl rfl rfl

/-! ## Posting -/

/-- A tweet that was just posted lacks the hashtags in its text, and no other tweet lacks any. -/
theorem Indexed.posted (h : s.Indexed) (ho : s.Orderly) {user : Int} {content : Option String}
    {parent target : Option Int} {tweets : Rows StoredTweet}
    (hposted : s.Posted user content parent target tweets) :
    (s.withPosted tweets).IndexedBut
      (lacking (s.counters.tweets + 1) ((content.map Text.hashtags).getD [])) where
  names t ht := by
    obtain ⟨time, hlist⟩ := hposted.list
    have ht : t ∈ s.tweets.list ++ [s.newTweet user content parent target time] := hlist ▸ ht
    show s.tagNames t.id ++ _ = _
    rcases List.mem_append.1 ht with ht | ht
    · have hnumber := ho.grounded.numbered t ht
      rw [lacking, if_neg (by omega)]
      exact h.names t ht
    · obtain rfl := List.mem_singleton.1 ht
      -- no link names a number that was not given
      have hnone : s.tagNames (s.counters.tweets + 1) = [] := tagNames_eq_nil fun l hl ↦ by
        have hlink := (ho.tags.links l hl).2
        omega
      show s.tagNames (s.counters.tweets + 1) ++ lacking _ _ (s.counters.tweets + 1) = _
      rw [hnone, lacking, if_pos rfl]
      rfl
  linked := h.linked

/-! ## Recording a hashtag -/

theorem IndexedBut.addTag {missing : Int → List String} (h : s.IndexedBut missing) {name : String}
    {u : Unit} (hrun : s.addTag now name = .ok (u, s')) : s'.IndexedBut missing := by
  rcases of_addTag hrun with rfl | ⟨time, hashtags, -, hlist, -, rfl⟩
  · exact h.of_eq rfl rfl rfl
  · exact ⟨fun t ht ↦ (congrArg (· ++ _) (tagNames_addTag hlist h.linked _)).trans (h.names t ht),
      fun l hl ↦ Rows.has_of_append hlist (h.linked l hl)⟩

/-- The first hashtag that a tweet lacks is recorded. -/
theorem IndexedBut.linkTag {tweet : Int} {tag : Tag} {tags : List String} {l : TagLink}
    {tagLinks : Rows TagLink} (h : s.IndexedBut (lacking tweet (tag.name :: tags)))
    (htag : tag ∈ s.hashtags.list) (htweetId : l.tweetId = tweet) (htagId : l.tagId = tag.id)
    (hlist : tagLinks.list = s.tagLinks.list ++ [l]) :
    ({ s with tagLinks } : Store).IndexedBut (lacking tweet tags) where
  names t ht := by
    have hget : s.hashtags.get? l.tagId = some tag :=
      Rows.get?_eq_some_iff.2 ⟨htag, htagId.symm⟩
    have hnames := h.names t ht
    rw [tagNames_linkTag hlist hget, htweetId, List.append_assoc, ← hnames, lacking, lacking]
    by_cases hid : t.id = tweet
    · simp [hid]
    · simp [hid, Ne.symm hid]
  linked m hm := by
    rcases List.mem_append.1 (hlist ▸ hm) with hm | hm
    · exact h.linked m hm
    · rw [List.mem_singleton.1 hm, htagId]
      exact Rows.has_iff.2 ⟨tag, htag, rfl⟩

/-- A tweet is not linked yet to a hashtag that it lacks. -/
theorem IndexedBut.not_linked {tweet : Int} {tag : Tag} {tags : List String}
    (h : s.IndexedBut (lacking tweet (tag.name :: tags))) (htweet : s.tweets.has tweet = true)
    (htag : tag ∈ s.hashtags.list) : ¬s.tagLinks.has (tweet, tag.id) = true := by
  intro hlink
  obtain ⟨t, ht, hid⟩ := Rows.has_iff.1 htweet
  obtain rfl : t.id = tweet := hid
  have hnames := h.names t ht
  rw [lacking, if_pos rfl] at hnames
  have hnodup : (s.tagNames t.id ++ tag.name :: tags).Nodup := hnames ▸ t.nodup_hashtags
  exact List.disjoint_of_nodup_append hnodup (mem_tagNames htag hlink) List.mem_cons_self

/-- Why a hashtag is not added. -/
theorem of_insertTag_error (h : s.Orderly) {name time : String} {c : Cause}
    (hfail : s.insertTag { name := some name, createdAt := some time } = .error c) :
    ¬s.counters.hashtags < Decimal.greatest ∨
      c = .uniqueness ∧ ∃ tag ∈ s.hashtags.list, tag.name = name := by
  have hfresh : ¬s.hashtags.has (s.counters.hashtags + 1) = true := by
    intro hhas
    obtain ⟨tag, htag, hid⟩ := Rows.has_iff.1 hhas
    have hid : tag.id = s.counters.hashtags + 1 := hid
    have hlast := (h.tags.tags tag htag).2
    omega
  simp only [insertTag, requireAdding, h.equipped.require, bind_eq_error_iff, need_eq_error_iff,
    need_eq_ok_iff, demand_eq_error_iff, chooseId_none_eq_error_iff, chooseId_none_eq_ok_iff,
    Rows.addRow_eq_error_iff, pure_ne_error, Option.some.injEq, exists_eq_left',
    exists_const, reduceCtorEq, false_and, and_false, true_and, false_or, or_false] at hfail
  rcases hfail with ⟨hfull, rfl⟩ | ⟨_, ⟨-, rfl⟩, ⟨htaken, rfl⟩ | ⟨_, -, hnames, rfl⟩⟩
  · exact .inl hfull
  · exact absurd htaken hfresh
  · push Not at hnames
    exact .inr ⟨rfl, hnames⟩

namespace Orderly

/-- While there are numbers left, a hashtag is there after it was added. -/
theorem addTag_eq_ok (h : s.Orderly) (hroom : s.counters.hashtags < Decimal.greatest)
    (now : Nat) (name : String) :
    ∃ s', s.addTag now name = .ok ((), s') ∧ ∃ tag ∈ s'.hashtags.list, tag.name = name := by
  cases hinsert : s.insertTag { name := some name, createdAt := some (stamp now) } with
  | ok found =>
    obtain ⟨id, s'⟩ := found
    refine ⟨s', by rw [addTag, hinsert]; rfl, ?_⟩
    obtain ⟨hashtags, -, hlist, -, rfl⟩ := of_insertTag hinsert
    exact ⟨_, hlist ▸ List.mem_append_right _ List.mem_cons_self, rfl⟩
  | error c =>
    rcases of_insertTag_error h hinsert with hfull | ⟨rfl, hthere⟩
    · exact absurd hroom hfull
    · refine ⟨{ s with counters.hashtags := s.counters.hashtags + 1 }, ?_, hthere⟩
      rw [addTag, hinsert]
      rfl

/-- A tweet is linked to a hashtag that it is not linked to. -/
theorem linkTag_eq_ok (h : s.Orderly) {tweet tag : Int} (htweet : s.tweets.has tweet = true)
    (htag : s.hashtags.has tag = true) (hfree : ¬s.tagLinks.has (tweet, tag) = true) :
    ∃ l tagLinks, l.tweetId = tweet ∧ l.tagId = tag ∧ tagLinks.list = s.tagLinks.list ++ [l] ∧
      s.linkTag tweet tag = .ok ((), { s with tagLinks }) := by
  cases hinsert : s.insertTagLink { tweetId := some (.int tweet), tagId := some (.int tag) } with
  | ok found =>
    obtain ⟨serial, s'⟩ := found
    have hrun : s.linkTag tweet tag = .ok ((), s') := by rw [linkTag, hinsert]; rfl
    simp only [insertTagLink, bind_eq_ok_iff, need_eq_ok_iff, demand_eq_ok_iff, pure_eq_ok_iff,
      named_eq_ok_iff, Option.some.injEq, exists_eq_left', Cell.int.injEq, Prod.mk.injEq]
      at hinsert
    obtain ⟨-, -, serial, -, tagLinks, hadd, -, -, -, rfl⟩ := hinsert
    exact ⟨_, tagLinks, rfl, rfl, (Rows.of_addRow hadd).1, hrun⟩
  | error c =>
    simp only [insertTagLink, requireAdding, h.equipped.require, chooseSerial_none, named_int,
      bind_eq_error_iff, need_eq_error_iff, need_eq_ok_iff, demand_eq_error_iff,
      Rows.addRow_eq_error_iff, pure_ne_error, Option.some.injEq, Except.ok.injEq, exists_eq_left',
      exists_const, reduceCtorEq, false_and, and_false, true_and, false_or, or_false]
      at hinsert
    rcases hinsert with ⟨htaken, -⟩ | ⟨_, -, hmissing, -⟩
    · exact absurd htaken hfree
    · exact absurd ⟨htweet, htag⟩ hmissing

end Orderly

/-- The number of a hashtag that is there is found. -/
theorem exists_tagId_eq_ok {name : String} (h : ∃ tag ∈ s.hashtags.list, tag.name = name) :
    ∃ tag ∈ s.hashtags.list, tag.name = name ∧ s.tagId name = .ok tag.id := by
  obtain ⟨tag, htag, hname⟩ := h
  have hsome : (s.hashtags.list.find? (·.name = name)).isSome :=
    List.find?_isSome.2 ⟨tag, htag, decide_eq_true hname⟩
  obtain ⟨found, hfound⟩ := Option.isSome_iff_exists.1 hsome
  refine ⟨found, List.mem_of_find?_eq_some hfound, by simpa using List.find?_some hfound, ?_⟩
  rw [tagId, hfound]
  rfl

end Store

end Microblog
