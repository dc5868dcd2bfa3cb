import Microblog.Proofs.Store.Tagging

/-!
# Links between stored rows, and the times of tweets

`Store.Tagging` says which hashtags a tweet carries.  Here it is about the rows behind that, whether
or not there were numbers for all hashtags: no two hashtags have one name, and a link joins a tweet
and a hashtag that are both stored (`Store.Linked`).  So a tweet carries the name of a hashtag just
if it is linked to it (`Store.Linked.mem_tagNames_iff`).

Besides, every tweet has a time within the calendar (`Store.Dated`).

What a statement can do to links and times is said once: a tweet that is new has the present as its
time, and the tweet of a link stays as long as the link does (`Store.Change.continues`).
-/

set_option autoImplicit false

namespace Microblog

open Text

namespace Store

variable {now : Nat} {s s' : Store}

/-! ## What a statement leaves -/

/-- What there is of tweets and of their links was there before, or is new. -/
structure Continues (now : Nat) (s s' : Store) : Prop where
  /-- The time of a tweet is what it was, or the tweet is new and the time is the present. -/
  dated : ∀ t' ∈ s'.tweets.list,
    (∃ t ∈ s.tweets.list, t.createdAt = t'.createdAt) ∨ t'.createdAt = stamp now
  /-- The tweet of a link that is left is left. -/
  linked : ∀ l ∈ s'.tagLinks.list, s.tweets.has l.tweetId = true → s'.tweets.has l.tweetId = true

namespace Continues

theorem of_eq (htweets : s'.tweets = s.tweets) : Continues now s s' where
  dated t ht := .inl ⟨t, htweets ▸ ht, rfl⟩
  linked l _ hl := by rw [htweets]; exact hl

protected theorem refl (s : Store) : Continues now s s := of_eq rfl

/-- The counters of a tweet do not matter. -/
theorem recount {k : Int} {f : StoredTweet → StoredTweet} {hkey : ∀ t, Row.key (f t) = Row.key t}
    (hf : ∀ t, (f t).createdAt = t.createdAt) (h : Continues now s s') :
    Continues now s { s' with tweets := s'.tweets.changeAt k f hkey } where
  dated := by
    refine Rows.forall_changeAt hkey (fun t ht ↦ ?_) h.dated
    rw [hf t]
    exact ht
  linked l hl htweet := by
    rw [Rows.has_changeAt]
    exact h.linked l hl htweet

theorem changeReplies (h : Continues now s s') (k : Int) (f : Cell → Cell) :
    Continues now s (s'.changeReplies k f) := h.recount fun _ ↦ rfl

theorem changeRetweets (h : Continues now s s') (k : Int) (f : Cell → Cell) :
    Continues now s (s'.changeRetweets k f) := h.recount fun _ ↦ rfl

theorem changeLikes (h : Continues now s s') (k : Int) (f : Cell → Cell) :
    Continues now s (s'.changeLikes k f) := h.recount fun _ ↦ rfl

/-- Tweets take their links along. -/
theorem without (D : List Int) : Continues now s (s.withoutTweets D) where
  dated t ht := .inl ⟨t, (Rows.mem_keep.1 ht).1, rfl⟩
  linked l hl htweet := by
    have hleft := (Rows.mem_keep.1 hl).2
    refine Rows.has_keep htweet fun t hkey ↦ ?_
    have hid : t.id = l.tweetId := hkey
    rw [hid]
    exact hleft

/-- A new tweet has the time that it was given. -/
theorem insertTweet {user id : Int} {content : Option String} (parent target : Option Int)
    (h : s.insertTweet {
      userId := some (.int user)
      content := content
      parentId := parent.map .int
      retweetId := target.map .int
      createdAt := some (stamp now)
      updatedAt := some (stamp now) } = .ok (id, s')) : Continues now s s' := by
  simp only [Store.insertTweet, bind_eq_ok_iff, need_eq_ok_iff, pure_eq_ok_iff, Option.some.injEq,
    exists_eq_left', Prod.mk.injEq] at h
  obtain ⟨-, -, _, -, -, -, -, -, _, -, _, -, -, -, _, -, tweets, hadd, -, -, -, rfl⟩ := h
  obtain ⟨hlist, -⟩ := Rows.of_addRow hadd
  refine ⟨fun t' ht' ↦ ?_, fun l _ htweet ↦ Rows.has_of_append hlist htweet⟩
  rcases List.mem_append.1 (hlist ▸ ht') with ht' | ht'
  · exact .inl ⟨t', ht', rfl⟩
  · rw [List.mem_singleton.1 ht']
    exact .inr rfl

end Continues

/-- **Every change leaves links and times in order.** -/
theorem Change.continues (h : Change now s s') : Continues now s s' := by
  cases h with
  | register h =>
    obtain ⟨_, _, -, -, rfl⟩ := of_createUser h
    exact .of_eq rfl
  | @post _ _ parent _ _ _ h =>
    simp only [createTweet, bind_eq_ok_iff, during_eq_ok_iff, pure_eq_ok_iff, Prod.mk.injEq] at h
    obtain ⟨_, hinsert, -, -, -, rfl⟩ := h
    have hposted := Continues.insertTweet parent none hinsert
    cases parent with
    | none => exact hposted
    | some p => exact hposted.changeReplies p _
  | delete _ h =>
    rcases of_deleteTweet h with ⟨-, rfl⟩ | ⟨-, t, -, -, -, D, -, rfl⟩
    · exact .refl _
    · cases t.parentId with
      | none => exact .without D
      | some p => exact (Continues.without D).changeReplies p _
  | @retweet _ target _ _ _ h =>
    simp only [createRetweet, bind_eq_ok_iff, during_eq_ok_iff] at h
    obtain ⟨added, hadded, h⟩ := h
    rcases of_ignoring hadded with rfl | ⟨_, hinsert, rfl⟩
    · simp only [pure_eq_ok_iff, Prod.mk.injEq] at h
      exact h.2 ▸ .refl _
    · simp only [bind_eq_ok_iff, during_eq_ok_iff, pure_eq_ok_iff, Prod.mk.injEq] at h
      obtain ⟨-, -, -, rfl⟩ := h
      exact (Continues.insertTweet none (some target) hinsert).changeRetweets target _
  | undo h =>
    rcases of_deleteRetweet h with ⟨-, rfl⟩ | ⟨-, _, -, -, -, D, -, rfl⟩
    · exact .refl _
    · exact (Continues.without D).changeRetweets _ _
  | like h =>
    rcases of_like h with ⟨-, rfl⟩ | ⟨-, _, likes, -, -, -, -, -, rfl⟩
    · exact .refl _
    · refine Continues.changeLikes ?_ _ _
      exact .of_eq rfl
  | unlike h =>
    rcases of_unlike h with ⟨-, rfl⟩ | ⟨-, _, -, -, -, rfl⟩
    · exact .refl _
    · refine Continues.changeLikes ?_ _ _
      exact .of_eq rfl
  | follow h =>
    rcases of_follow h with ⟨-, rfl⟩ | ⟨-, _, _, -, -, -, -, -, -, rfl⟩
    · exact .refl _
    · exact .of_eq rfl
  | unfollow h =>
    rcases of_unfollow h with ⟨-, rfl⟩ | ⟨-, _, -, -, -, rfl⟩
    · exact .refl _
    · exact .of_eq rfl
  | profile h =>
    rcases of_writeProfile h with ⟨-, rfl⟩ | ⟨-, _, rfl⟩
    · exact .refl _
    · exact .of_eq rfl
  | notify h =>
    obtain ⟨_, _, -, -, -, -, -, -, rfl⟩ := of_createNotification h
    exact .of_eq rfl
  | markRead h =>
    obtain ⟨-, rfl⟩ := of_markRead h
    exact .of_eq rfl
  | tag h =>
    rcases of_addTag h with rfl | ⟨_, _, -, -, -, rfl⟩
    · exact .of_eq rfl
    · exact .of_eq rfl
  | link h =>
    rcases of_linkTag h with rfl | ⟨_, _, -, -, -, -, -, rfl⟩
    · exact .refl _
    · exact .of_eq rfl

/-! ## Times -/

/-- What is written for the present is the text of a second. -/
theorem text?_stamp (now : Nat) :
    Timestamp.text? (min (now / 1000000000) Timestamp.last.toNat : Nat) = some (stamp now) := by
  have hlast : (0 : Int) ≤ Timestamp.last := by decide
  have hfirst : Timestamp.first ≤ 0 := by decide
  rw [Timestamp.text?, if_pos ⟨by omega, by omega⟩, stamp]

/-- Every tweet has a time within the calendar. -/
def Dated (s : Store) : Prop :=
  ∀ t ∈ s.tweets.list, ∃ second : Nat, Timestamp.text? second = some t.createdAt

theorem Dated.change (hchange : Change now s s') (h : s.Dated) : s'.Dated := by
  intro t' ht'
  rcases hchange.continues.dated t' ht' with ⟨t, ht, htime⟩ | hnew
  · exact htime ▸ h t ht
  · exact hnew ▸ ⟨_, text?_stamp now⟩

/-- What happens at one time leaves the tweets of that time alone, and adds others of that time. -/
theorem Changes.present (h : Changes now s s')
    (hpresent : ∀ t ∈ s.tweets.list, t.createdAt = stamp now) :
    ∀ t ∈ s'.tweets.list, t.createdAt = stamp now := by
  refine h.keeps (P := fun s ↦ ∀ t ∈ s.tweets.list, t.createdAt = stamp now)
    (fun hchange hold t ht ↦ ?_) hpresent
  rcases hchange.continues.dated t ht with ⟨u, hu, hsame⟩ | htime
  · exact hsame ▸ hold u hu
  · exact htime

/-! ## Links -/

/-- No two hashtags have one name, and links join tweets and hashtags that are stored. -/
structure Linked (s : Store) : Prop where
  named : ∀ a ∈ s.hashtags.list, ∀ b ∈ s.hashtags.list, a.name = b.name → a = b
  tweets : ∀ l ∈ s.tagLinks.list, s.tweets.has l.tweetId = true
  tags : ∀ l ∈ s.tagLinks.list, s.hashtags.has l.tagId = true

namespace Linked

theorem aside (haside : s.Aside s') (hcontinues : Continues now s s') (h : s.Linked) :
    s'.Linked := by
  obtain ⟨p, hlinks⟩ := haside.tagLinks
  have hold : ∀ l ∈ s'.tagLinks.list, l ∈ s.tagLinks.list := fun l hl ↦
    (Rows.mem_keep.1 (hlinks ▸ hl)).1
  refine ⟨?_, fun l hl ↦ hcontinues.linked l hl (h.tweets l (hold l hl)), fun l hl ↦ ?_⟩
  · rw [haside.hashtags]
    exact h.named
  · rw [haside.hashtags]
    exact h.tags l (hold l hl)

theorem addTag {name : String} {u : Unit} (hrun : s.addTag now name = .ok (u, s'))
    (h : s.Linked) : s'.Linked := by
  rcases of_addTag hrun with rfl | ⟨time, hashtags, -, hlist, hnew, rfl⟩
  · exact ⟨h.named, h.tweets, h.tags⟩
  · refine ⟨fun a ha b hb hname ↦ ?_, h.tweets, fun l hl ↦ Rows.has_of_append hlist (h.tags l hl)⟩
    -- the name of the new hashtag is that of no other
    rcases List.mem_append.1 (hlist ▸ ha) with ha | ha <;>
      rcases List.mem_append.1 (hlist ▸ hb) with hb | hb
    · exact h.named a ha b hb hname
    · rw [List.mem_singleton.1 hb] at hname
      exact absurd hname (hnew a ha)
    · rw [List.mem_singleton.1 ha] at hname
      exact absurd hname.symm (hnew b hb)
    · rw [List.mem_singleton.1 ha, List.mem_singleton.1 hb]

theorem linkTag {tweet tag : Int} {u : Unit} (hrun : s.linkTag tweet tag = .ok (u, s'))
    (h : s.Linked) : s'.Linked := by
  rcases of_linkTag hrun with rfl | ⟨l, tagLinks, rfl, rfl, htweet, htag, hlist, rfl⟩
  · exact h
  · refine ⟨h.named, fun m hm ↦ ?_, fun m hm ↦ ?_⟩
    · rcases List.mem_append.1 (hlist ▸ hm) with hm | hm
      · exact h.tweets m hm
      · rw [List.mem_singleton.1 hm]
        exact htweet
    · rcases List.mem_append.1 (hlist ▸ hm) with hm | hm
      · exact h.tags m hm
      · rw [List.mem_singleton.1 hm]
        exact htag

theorem change (hchange : Change now s s') (h : s.Linked) : s'.Linked := by
  rcases hchange.aside_or with haside | ⟨_, _, hrun⟩ | ⟨_, _, hrun⟩ | ⟨_, _, hrun⟩ | ⟨_, _, _, hrun⟩
  · exact h.aside haside hchange.continues
  · obtain ⟨_, _, -, -, -, -, -, -, rfl⟩ := of_createNotification hrun
    exact ⟨h.named, h.tweets, h.tags⟩
  · obtain ⟨-, rfl⟩ := of_markRead hrun
    exact ⟨h.named, h.tweets, h.tags⟩
  · exact h.addTag hrun
  · exact h.linkTag hrun

/-- **A tweet carries the name of a hashtag just if it is linked to it.** -/
theorem mem_tagNames_iff (h : s.Linked) {tag : Tag} (htag : tag ∈ s.hashtags.list) {tweet : Int} :
    tag.name ∈ s.tagNames tweet ↔ s.tagLinks.has (tweet, tag.id) = true := by
  refine ⟨fun hname ↦ ?_, mem_tagNames htag⟩
  obtain ⟨l, hl, hfound⟩ := List.mem_filterMap.1 hname
  split at hfound
  · rename_i htweet
    obtain ⟨other, hget, hsame⟩ := Option.map_eq_some_iff.1 hfound
    obtain ⟨hother, hid⟩ := Rows.get?_eq_some_iff.1 hget
    obtain rfl := h.named other hother tag htag hsame
    exact Rows.has_iff.2 ⟨l, hl, Prod.ext htweet hid.symm⟩
  · cases hfound

end Linked

/-- What a tweet carries is the name of a hashtag. -/
theorem exists_tag_of_mem_tagNames {name : String} {tweet : Int} (h : name ∈ s.tagNames tweet) :
    ∃ tag ∈ s.hashtags.list, tag.name = name := by
  obtain ⟨l, -, hfound⟩ := List.mem_filterMap.1 h
  split at hfound
  · obtain ⟨tag, hget, hname⟩ := Option.map_eq_some_iff.1 hfound
    exact ⟨tag, (Rows.get?_eq_some_iff.1 hget).1, hname⟩
  · cases hfound

end Store

end Microblog
