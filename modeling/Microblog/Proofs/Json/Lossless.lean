import Microblog.Proofs.Cache
import Microblog.Proofs.Json.Record

/-!
# Records survive as text

Accounts, tweets, notifications and hashtags leave the program as JSON text and come back from it:
from the cache, and wherever such a text is read.  Nothing is lost on the way
(`records_lossless`).

`Lossless` says what this means for a type of records.  That it holds of a type follows from what is
read from the record itself (`Lossless.of_ofJson`), as a printed value is read as it was.
-/

set_option autoImplicit false

namespace Microblog

/-- Values of a type are written as flat records with these names, and come back from the text. -/
structure Lossless {α : Type} (encode : α → Json) (decode : Decoder α) (Fits : α → Prop)
    (names : List String) : Prop where
  /-- The members of a record always have the same names, also where a value is absent. -/
  flat : ∀ a, ∃ members, encode a = .record members ∧ members.map Prod.fst = names
  /-- A record is read as it was. -/
  record : ∀ a, Fits a → decode.parse (encode a).render = .ok a
  /-- A list of records is read as it was. -/
  list : ∀ as, (∀ a ∈ as, Fits a) →
    Decoder.parse (Draft.asList decode) (Json.list (as.map encode)).render = .ok as
  /-- A list of records that was put into a cache is found there as it was. -/
  cached : ∀ as, (∀ a ∈ as, Fits a) → ∀ (c : Cache) (key : String) (now now' lifetime : Nat),
    now' - now < lifetime →
    (c.put now key (.list (as.map encode)) lifetime).get? (Draft.asList decode) now' key = some as

/-- Nothing is lost in the text if nothing is lost in the record. -/
theorem Lossless.of_ofJson {α : Type} {encode : α → Json} {decode : Decoder α} {Fits : α → Prop}
    {names : List String}
    (flat : ∀ a, ∃ members, encode a = .record members ∧ members.map Prod.fst = names)
    (hfits : ∀ a, Fits a → (encode a).Fits)
    (hdecode : ∀ a, Fits a → decode (.ofJson (encode a)) = .ok a) :
    Lossless encode decode Fits names := by
  have hlist : ∀ as, (∀ a ∈ as, Fits a) →
      Decoder.parse (Draft.asList decode) (Json.list (as.map encode)).render = .ok as :=
    fun as has ↦ Decoder.parse_list (fun a ha ↦ hfits a (has a ha)) fun a ha ↦ hdecode a (has a ha)
  refine ⟨flat, fun a ha ↦ ?_, hlist, fun as has c key now now' lifetime hlive ↦ ?_⟩
  · rw [Decoder.parse_render decode (hfits a ha), hdecode a ha]
  · exact Cache.get?_put_eq_some_iff.2 ⟨hlive, hlist as has⟩

/-- The names in the record of an account. -/
def User.names : List String :=
  ["id", "username", "email", "display_name", "bio", "avatar_url", "followers_count",
    "following_count", "created_at", "updated_at"]

/-- The names in the record of a tweet. -/
def Tweet.names : List String :=
  ["id", "user_id", "content", "media_type", "media_url", "parent_id", "retweet_id", "reply_count",
    "retweet_count", "like_count", "created_at", "updated_at"]

/-- **Every record comes back from its text as it was**, whatever is in its texts, if its numbers
have 64 bits. -/
theorem records_lossless :
    Lossless User.toJson User.decode User.Fits User.names ∧
    Lossless SeenUser.toJson SeenUser.decode (·.user.Fits) (User.names ++ ["is_following"]) ∧
    Lossless Tweet.toJson Tweet.decode Tweet.Fits Tweet.names ∧
    Lossless SeenTweet.toJson SeenTweet.decode (·.tweet.Fits)
      (Tweet.names ++ ["is_liked", "is_retweeted", "is_following"]) ∧
    Lossless Notification.toJson Notification.decode Notification.Fits
      ["id", "recipient_id", "actor_id", "tweet_id", "type", "is_read", "created_at"] ∧
    Lossless Hashtag.toJson Hashtag.decode Hashtag.Fits ["id", "name", "tweet_count"] :=
  ⟨.of_ofJson (fun _ ↦ ⟨_, rfl, rfl⟩) (fun _ ↦ User.Fits.membersFit) fun _ ↦ User.decode_ofJson,
    .of_ofJson (fun _ ↦ ⟨_, rfl, rfl⟩) (fun _ ↦ SeenUser.fits_toJson)
      fun _ ↦ SeenUser.decode_ofJson,
    .of_ofJson (fun _ ↦ ⟨_, rfl, rfl⟩) (fun _ ↦ Tweet.Fits.membersFit) fun _ ↦ Tweet.decode_ofJson,
    .of_ofJson (fun _ ↦ ⟨_, rfl, rfl⟩) (fun _ ↦ SeenTweet.fits_toJson)
      fun _ ↦ SeenTweet.decode_ofJson,
    .of_ofJson (fun _ ↦ ⟨_, rfl, rfl⟩) (fun _ ↦ Notification.fits_toJson)
      fun _ ↦ Notification.decode_ofJson,
    .of_ofJson (fun _ ↦ ⟨_, rfl, rfl⟩) (fun _ ↦ Hashtag.fits_toJson) fun _ ↦ Hashtag.decode_ofJson⟩

end Microblog
