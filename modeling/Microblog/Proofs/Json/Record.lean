import Mathlib.Data.List.Forall2
import Mathlib.Data.List.Nodup
import Microblog.Proofs.Json.Reading
import Microblog.Record.Hashtag
import Microblog.Record.Notification
import Microblog.Record.Tweet
import Microblog.Record.User

/-!
# Reading records that were written

A record is read by a `Shape`, one field after the other.  `Shape.Reads` says that a shape reads
some members as a value: they are its fields in order, each passes its check, and the values build
the record.  It is put together in the same way as the shape, by `Shape.Reads.required` and
`Shape.Reads.optional`, and whatever a shape reads, its decoders read (`Shape.Reads.decode_eq`,
`Shape.Reads.decodeJoined_eq`).

So every record is read as it was written, if its numbers have 64 bits (`User.decode_ofJson` and so
on), and so are lists of records (`Decoder.parse_list`).
-/

set_option autoImplicit false

namespace Microblog

open Text

/-! ## Looking up names -/

theorem lookup_eq_some {α : Type} {l : List (String × α)} (hnodup : (l.map Prod.fst).Nodup)
    {name : String} {a : α} (hmem : (name, a) ∈ l) : l.lookup name = some a := by
  induction l with
  | nil => cases hmem
  | cons e l ih =>
    rw [List.map_cons, List.nodup_cons] at hnodup
    rcases List.mem_cons.1 hmem with rfl | hmem
    · exact List.lookup_cons_self
    · have hne : name ≠ e.1 := by
        rintro rfl
        exact hnodup.1 (List.mem_map.2 ⟨_, hmem, rfl⟩)
      rw [List.lookup_cons, beq_false_of_ne hne]
      exact ih hnodup.2 hmem

theorem lookup_eq_none {α : Type} {l : List (String × α)} {name : String}
    (h : name ∉ l.map Prod.fst) : l.lookup name = none := by
  rw [List.lookup_eq_none_iff]
  intro e he
  have hne : name ≠ e.1 := by
    rintro rfl
    exact h (List.mem_map_of_mem he)
  exact bne_iff_ne.2 hne

namespace Shape

variable {α β : Type}

/-- The members are the fields of the shape in order, and they are read as `a`. -/
structure Reads (shape : Shape α) (members : List (String × Draft)) (a : α) : Prop where
  fields : List.Forall₂ (fun field m ↦ field.1 = m.1 ∧ field.2 m.2 = .ok ()) shape.fields members
  build : ∀ look, (∀ m ∈ members, look m.1 = some m.2) → shape.build look = .ok a

namespace Reads

/-! ## Shapes that are put together -/

theorem of (a : α) : (Shape.of a).Reads [] a := ⟨.nil, fun _ _ ↦ rfl⟩

theorem map {shape : Shape α} {members : List (String × Draft)} {a : α} (h : shape.Reads members a)
    (f : α → β) : (shape.map f).Reads members (f a) where
  fields := h.fields
  build look hlook := congrArg (Except.map f) (h.build look hlook)

variable {members : List (String × Draft)} {name : String} {d : Draft}

theorem required {shape : Shape (α → β)} {f : α → β} (h : shape.Reads members f)
    {decode : Decoder α} {a : α} (hd : decode d = .ok a) :
    (shape.required name decode).Reads (members ++ [(name, d)]) (f a) where
  fields := by
    have hcheck : ((decode d).map fun _ ↦ ()) = .ok () := by rw [hd]; rfl
    exact List.rel_append h.fields (.cons ⟨rfl, hcheck⟩ .nil)
  build look hlook := by
    have hfound : look name = some d := hlook (name, d) (by simp)
    have hbuild : shape.build look = .ok f :=
      h.build look fun m hm ↦ hlook m (List.mem_append_left _ hm)
    rw [Shape.required]
    simp only [hbuild, hfound, hd]
    rfl

theorem optional {shape : Shape (Option α → β)} {f : Option α → β} (h : shape.Reads members f)
    {decode : Decoder α} {a : Option α} (hd : Draft.asOption decode d = .ok a) :
    (shape.optional name decode).Reads (members ++ [(name, d)]) (f a) where
  fields := by
    have hcheck : ((Draft.asOption decode d).map fun _ ↦ ()) = .ok () := by rw [hd]; rfl
    exact List.rel_append h.fields (.cons ⟨rfl, hcheck⟩ .nil)
  build look hlook := by
    have hfound : look name = some d := hlook (name, d) (by simp)
    have hbuild : shape.build look = .ok f :=
      h.build look fun m hm ↦ hlook m (List.mem_append_left _ hm)
    rw [Shape.optional]
    simp only [hbuild, hfound, hd]
    rfl

/-! ## Decoders -/

variable {shape : Shape α} {a : α}

theorem names (h : shape.Reads members a) : shape.fields.map Prod.fst = members.map Prod.fst := by
  rw [← List.forall₂_eq_eq_eq, List.forall₂_map_left_iff, List.forall₂_map_right_iff]
  exact h.fields.imp fun _ _ hfield ↦ hfield.1

/-- The check of the field that a member is. -/
theorem check (h : shape.Reads members a) (hnodup : (shape.fields.map Prod.fst).Nodup)
    {m : String × Draft} (hm : m ∈ members) :
    ∃ check, shape.fields.lookup m.1 = some check ∧ check m.2 = .ok () := by
  obtain ⟨i, hi, rfl⟩ := List.getElem_of_mem hm
  have hi' : i < shape.fields.length := h.fields.length_eq ▸ hi
  obtain ⟨hname, hcheck⟩ := h.fields.get hi' hi
  refine ⟨shape.fields[i].2, ?_, hcheck⟩
  refine lookup_eq_some hnodup ?_
  rw [← show shape.fields[i].1 = members[i].1 from hname]
  exact List.getElem_mem hi'

/-- All members are gathered, after those that were gathered before. -/
theorem gather_eq {shape : Shape α} {skips : Draft → Bool} {members : List (String × Draft)}
    (hchecks : ∀ m ∈ members, ∃ check, shape.fields.lookup m.1 = some check ∧ check m.2 = .ok ())
    {found : List (String × Draft)} (hnodup : ((found ++ members).map Prod.fst).Nodup) :
    shape.gather skips found (members.map fun m ↦ (some m.1, m.2)) = .ok (found ++ members) := by
  induction members generalizing found with
  | nil => rw [List.map_nil, gather, List.append_nil]
  | cons m members ih =>
    obtain ⟨check, hlookup, hcheck⟩ := hchecks m List.mem_cons_self
    have hfresh : found.lookup m.1 = none := by
      refine lookup_eq_none fun hmem ↦ ?_
      rw [List.map_append, List.nodup_append] at hnodup
      exact hnodup.2.2 m.1 hmem m.1 (List.mem_map_of_mem List.mem_cons_self) rfl
    have hsplit : found ++ m :: members = (found ++ [(m.1, m.2)]) ++ members := by simp
    rw [List.map_cons, gather]
    simp only [hlookup, hfresh, hcheck]
    rw [hsplit] at hnodup ⊢
    exact ih (fun m' hm' ↦ hchecks m' (List.mem_cons_of_mem _ hm')) hnodup

theorem decodeMembers_eq (h : shape.Reads members a) (hnodup : (shape.fields.map Prod.fst).Nodup)
    (skips : Draft → Bool) :
    shape.decodeMembers skips (members.map fun m ↦ (some m.1, m.2)) true = .ok a := by
  have hmembers : (members.map Prod.fst).Nodup := h.names ▸ hnodup
  have hgather : shape.gather skips [] (members.map fun m ↦ (some m.1, m.2)) = .ok members :=
    gather_eq (fun m hm ↦ h.check hnodup hm) hmembers
  have hbuild : shape.build (fun name ↦ members.lookup name) = .ok a :=
    h.build _ fun m hm ↦ lookup_eq_some hmembers hm
  rw [decodeMembers, hgather]
  exact hbuild

/-- What a shape reads, its decoder reads. -/
theorem decode_eq (h : shape.Reads members a) (hnodup : (shape.fields.map Prod.fst).Nodup) :
    shape.decode (.record (members.map fun m ↦ (some m.1, m.2)) true) = .ok a :=
  h.decodeMembers_eq hnodup _

/-- What a shape reads, its decoder for a part of a larger record reads. -/
theorem decodeJoined_eq (h : shape.Reads members a) (hnodup : (shape.fields.map Prod.fst).Nodup) :
    shape.decodeJoined (.record (members.map fun m ↦ (some m.1, m.2)) true) = .ok a :=
  h.decodeMembers_eq hnodup _

end Reads

end Shape

/-! ## Values -/

namespace Draft

theorem asInt_int {n : Int} (h : Decimal.Fits n) : asInt (.ofJson (.int n)) = .ok n := if_pos h

theorem asText_text (s : String) : asText (.ofJson (.text s)) = .ok s := rfl

theorem asBool_bool (b : Bool) : asBool (.ofJson (.bool b)) = .ok b := rfl

theorem asOption_text (o : Option String) :
    asOption asText (.ofJson (.option .text o)) = .ok o := by
  cases o <;> rfl

theorem asOption_int {o : Option Int} (h : ∀ n, o = some n → Decimal.Fits n) :
    asOption asInt (.ofJson (.option .int o)) = .ok o := by
  cases o with
  | none => rfl
  | some n => exact congrArg (Except.map some) (asInt_int (h n rfl))

theorem asList_ofJson {α : Type} {decode : Decoder α} {encode : α → Json} {as : List α}
    (h : ∀ a ∈ as, decode (.ofJson (encode a)) = .ok a) :
    asList decode (.ofJson (.list (as.map encode))) = .ok as := by
  have hitems : asItems decode (ofItems (as.map encode)) = .ok as := by
    induction as with
    | nil => rfl
    | cons a as ih =>
      have hrest := ih fun b hb ↦ h b (List.mem_cons_of_mem _ hb)
      rw [List.map_cons, ofItems, asItems, h a List.mem_cons_self, hrest]
      rfl
  rw [ofJson, asList, hitems]
  rfl

end Draft

theorem Json.fits_option {α : Type} {f : α → Json} {o : Option α}
    (h : ∀ a, o = some a → (f a).Fits) : (Json.option f o).Fits := by
  cases o with
  | none => trivial
  | some a => exact h a rfl

/-- A record fits with some members more, if it does with those it had and those fit too. -/
theorem Json.fits_record_append {members more : List (String × Json)}
    (h : Json.MembersFit members) (hmore : Json.MembersFit more) :
    (Json.record (members ++ more)).Fits := by
  rw [Json.Fits, Json.membersFit_iff, List.forall_mem_append, ← Json.membersFit_iff,
    ← Json.membersFit_iff]
  exact ⟨h, hmore⟩

/-! ## Accounts -/

/-- All numbers of an account have 64 bits. -/
structure User.Fits (u : User) : Prop where
  id : Decimal.Fits u.id
  followersCount : Decimal.Fits u.followersCount
  followingCount : Decimal.Fits u.followingCount

namespace User

variable {u : User}

theorem Fits.membersFit (h : u.Fits) : Json.MembersFit u.members :=
  ⟨h.id, trivial, trivial, Json.fits_option fun _ _ ↦ trivial, Json.fits_option fun _ _ ↦ trivial,
    Json.fits_option fun _ _ ↦ trivial, h.followersCount, h.followingCount, trivial, trivial,
    trivial⟩

/-- The members of an account are read as the account. -/
theorem reads (h : u.Fits) : shape.Reads (u.members.map fun m ↦ (m.1, .ofJson m.2)) u :=
  (Shape.Reads.of User.mk).required (Draft.asInt_int h.id)
    |>.required (Draft.asText_text _)
    |>.required (Draft.asText_text _)
    |>.optional (Draft.asOption_text u.displayName)
    |>.optional (Draft.asOption_text u.bio)
    |>.optional (Draft.asOption_text u.avatarUrl)
    |>.required (Draft.asInt_int h.followersCount)
    |>.required (Draft.asInt_int h.followingCount)
    |>.required (Draft.asText_text _)
    |>.required (Draft.asText_text _)

/-- **The record of an account is read as that account.** -/
theorem decode_ofJson (h : u.Fits) : decode (.ofJson u.toJson) = .ok u :=
  (reads h).decode_eq (by decide)

end User

namespace SeenUser

variable {u : SeenUser}

theorem fits_toJson (h : u.user.Fits) : u.toJson.Fits :=
  Json.fits_record_append h.membersFit ⟨trivial, trivial⟩

/-- **The record of a seen account is read as that seen account.** -/
theorem decode_ofJson (h : u.user.Fits) : decode (.ofJson u.toJson) = .ok u := by
  have hreads : shape.Reads ((u.user.members ++ [("is_following", Json.bool u.isFollowing)]).map
      fun m ↦ (m.1, Draft.ofJson m.2)) u :=
    ((User.reads h).map _).required (Draft.asBool_bool u.isFollowing)
  exact hreads.decodeJoined_eq (by decide)

end SeenUser

/-! ## Tweets -/

/-- All numbers of a tweet have 64 bits. -/
structure Tweet.Fits (t : Tweet) : Prop where
  id : Decimal.Fits t.id
  userId : Decimal.Fits t.userId
  parentId : ∀ n, t.parentId = some n → Decimal.Fits n
  retweetId : ∀ n, t.retweetId = some n → Decimal.Fits n
  replyCount : Decimal.Fits t.replyCount
  retweetCount : Decimal.Fits t.retweetCount
  likeCount : Decimal.Fits t.likeCount

namespace Tweet

variable {t : Tweet}

theorem Fits.membersFit (h : t.Fits) : Json.MembersFit t.members :=
  ⟨h.id, h.userId, Json.fits_option fun _ _ ↦ trivial, Json.fits_option fun _ _ ↦ trivial,
    Json.fits_option fun _ _ ↦ trivial, Json.fits_option h.parentId, Json.fits_option h.retweetId,
    h.replyCount, h.retweetCount, h.likeCount, trivial, trivial, trivial⟩

/-- The members of a tweet are read as the tweet. -/
theorem reads (h : t.Fits) : shape.Reads (t.members.map fun m ↦ (m.1, .ofJson m.2)) t :=
  (Shape.Reads.of Tweet.mk).required (Draft.asInt_int h.id)
    |>.required (Draft.asInt_int h.userId)
    |>.optional (Draft.asOption_text t.content)
    |>.optional (Draft.asOption_text t.mediaType)
    |>.optional (Draft.asOption_text t.mediaUrl)
    |>.optional (Draft.asOption_int h.parentId)
    |>.optional (Draft.asOption_int h.retweetId)
    |>.required (Draft.asInt_int h.replyCount)
    |>.required (Draft.asInt_int h.retweetCount)
    |>.required (Draft.asInt_int h.likeCount)
    |>.required (Draft.asText_text _)
    |>.required (Draft.asText_text _)

/-- **The record of a tweet is read as that tweet.** -/
theorem decode_ofJson (h : t.Fits) : decode (.ofJson t.toJson) = .ok t :=
  (reads h).decode_eq (by decide)

end Tweet

namespace SeenTweet

variable {t : SeenTweet}

theorem fits_toJson (h : t.tweet.Fits) : t.toJson.Fits :=
  Json.fits_record_append h.membersFit ⟨trivial, trivial, trivial, trivial⟩

/-- **The record of a seen tweet is read as that seen tweet.** -/
theorem decode_ofJson (h : t.tweet.Fits) : decode (.ofJson t.toJson) = .ok t := by
  have hreads : shape.Reads
      ((t.tweet.members ++ [("is_liked", Json.bool t.flags.isLiked),
        ("is_retweeted", Json.bool t.flags.isRetweeted),
        ("is_following", Json.bool t.flags.isFollowing)]).map fun m ↦ (m.1, Draft.ofJson m.2)) t :=
    ((Tweet.reads h).map _).required (Draft.asBool_bool t.flags.isLiked)
      |>.required (Draft.asBool_bool t.flags.isRetweeted)
      |>.required (Draft.asBool_bool t.flags.isFollowing)
  exact hreads.decodeJoined_eq (by decide)

end SeenTweet

/-! ## Hashtags -/

namespace Hashtag

/-- All numbers of a hashtag have 64 bits. -/
structure Fits (h : Hashtag) : Prop where
  id : Decimal.Fits h.id
  tweetCount : Decimal.Fits h.tweetCount

variable {h : Hashtag}

theorem fits_toJson (hfits : h.Fits) : h.toJson.Fits :=
  ⟨hfits.id, trivial, hfits.tweetCount, trivial⟩

/-- **The record of a hashtag is read as that hashtag.** -/
theorem decode_ofJson (hfits : h.Fits) : decode (.ofJson h.toJson) = .ok h := by
  have hreads : shape.Reads [("id", .ofJson (.int h.id)), ("name", .ofJson (.text h.name)),
      ("tweet_count", .ofJson (.int h.tweetCount))] h :=
    (Shape.Reads.of Hashtag.mk).required (Draft.asInt_int hfits.id)
      |>.required (Draft.asText_text _)
      |>.required (Draft.asInt_int hfits.tweetCount)
  exact hreads.decode_eq (by decide)

end Hashtag

/-! ## Notifications -/

/-- All numbers of a notification have 64 bits. -/
structure Notification.Fits (n : Notification) : Prop where
  id : Decimal.Fits n.id
  recipientId : Decimal.Fits n.recipientId
  actorId : Decimal.Fits n.actorId
  tweetId : ∀ t, n.tweetId = some t → Decimal.Fits t

theorem NotificationKind.decode_text (k : NotificationKind) :
    decode (.ofJson (.text k.name)) = .ok k := by
  cases k <;> rfl

namespace Notification

variable {n : Notification}

theorem fits_toJson (h : n.Fits) : n.toJson.Fits :=
  ⟨h.id, h.recipientId, h.actorId, Json.fits_option h.tweetId, trivial, trivial, trivial, trivial⟩

/-- **The record of a notification is read as that notification.** -/
theorem decode_ofJson (h : n.Fits) : decode (.ofJson n.toJson) = .ok n := by
  have hreads : shape.Reads [("id", .ofJson (.int n.id)),
      ("recipient_id", .ofJson (.int n.recipientId)), ("actor_id", .ofJson (.int n.actorId)),
      ("tweet_id", .ofJson (.option .int n.tweetId)), ("type", .ofJson (.text n.kind.name)),
      ("is_read", .ofJson (.bool n.isRead)), ("created_at", .ofJson (.text n.createdAt))] n :=
    (Shape.Reads.of Notification.mk).required (Draft.asInt_int h.id)
      |>.required (Draft.asInt_int h.recipientId)
      |>.required (Draft.asInt_int h.actorId)
      |>.optional (Draft.asOption_int h.tweetId)
      |>.required n.kind.decode_text
      |>.required (Draft.asBool_bool n.isRead)
      |>.required (Draft.asText_text _)
  exact hreads.decode_eq (by decide)

end Notification

/-! ## Lists -/

/-- A list of values that were written one by one is read as it was. -/
theorem Decoder.parse_list {α : Type} {decode : Decoder α} {encode : α → Json} {as : List α}
    (hfits : ∀ a ∈ as, (encode a).Fits) (hdecode : ∀ a ∈ as, decode (.ofJson (encode a)) = .ok a) :
    Decoder.parse (Draft.asList decode) (Json.list (as.map encode)).render = .ok as := by
  have hlist : (Json.list (as.map encode)).Fits := by
    rw [Json.Fits, Json.itemsFit_iff]
    exact List.forall_mem_map.2 hfits
  rw [Decoder.parse_render _ hlist]
  exact Draft.asList_ofJson hdecode

theorem Draft.length_asItems {α : Type} {decode : Decoder α} {ds : List Draft} {as : List α}
    (h : asItems decode ds = .ok as) : as.length = ds.length := by
  induction ds generalizing as with
  | nil =>
    obtain rfl := Except.ok.inj h
    rfl
  | cons d ds ih =>
    rw [asItems] at h
    cases hd : decode d with
    | error fault => rw [hd] at h; cases h
    | ok a =>
      cases hds : asItems decode ds with
      | error fault => rw [hd, hds] at h; cases h
      | ok rest =>
        rw [hd, hds] at h
        obtain rfl : a :: rest = as := Except.ok.inj h
        rw [List.length_cons, List.length_cons, ih hds]

/-- Whatever a list that was written is read as, it has as many items. -/
theorem Decoder.length_of_parse_list {α : Type} {decode : Decoder α} {items : List Json}
    {as : List α} (hfits : (Json.list items).Fits)
    (h : Decoder.parse (Draft.asList decode) (Json.list items).render = .ok as) :
    as.length = items.length := by
  rw [Decoder.parse_render _ hfits, Draft.ofJson, Draft.asList] at h
  cases hitems : Draft.asItems decode (Draft.ofItems items) with
  | error fault => rw [hitems] at h; cases h
  | ok found =>
    rw [hitems] at h
    obtain rfl : found = as := Except.ok.inj h
    rw [Draft.length_asItems hitems, Draft.ofItems_eq, List.length_map]

end Microblog
