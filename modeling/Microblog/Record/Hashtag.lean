import Microblog.Json.Printer
import Microblog.Json.Shape

/-!
# Hashtags

A `Hashtag` is a tag with the number of tweets that carry it.
-/

set_option autoImplicit false

namespace Microblog

/-- A tag with the number of tweets that carry it. -/
structure Hashtag where
  id : Int
  name : String
  tweetCount : Int
deriving DecidableEq, Repr

namespace Hashtag

/-- The record of a hashtag. -/
def toJson (h : Hashtag) : Json :=
  .record [("id", .int h.id), ("name", .text h.name), ("tweet_count", .int h.tweetCount)]

/-- How the record of a hashtag is read. -/
def shape : Shape Hashtag :=
  (Shape.of Hashtag.mk).required "id" Draft.asInt
    |>.required "name" Draft.asText
    |>.required "tweet_count" Draft.asInt

/-- A hashtag, from its record. -/
def decode : Decoder Hashtag := shape.decode

end Hashtag

end Microblog
