import Microblog.Json.Printer
import Microblog.Json.Shape
import Microblog.Keyed

/-!
# The response cache

The cache keeps values under keys, each as JSON text and for a time of its own.  `get?` reads the
text as a value of the type that is asked for: an entry whose time is over, or whose text is of
another type, is as good as none.  `purge` takes out the entries whose time is over.
-/

set_option autoImplicit false

namespace Microblog

open Text

/-- A value in the cache.  Times are in nanoseconds. -/
structure CacheEntry where
  json : String
  cachedAt : Nat
  lifetime : Nat
deriving DecidableEq, Repr

/-- Whether the entry's time is not over. -/
def CacheEntry.isLive (now : Nat) (e : CacheEntry) : Bool := now - e.cachedAt < e.lifetime

/-- Values under keys. -/
structure Cache where
  entries : Keyed String CacheEntry

namespace Cache

/-- The cache without entries. -/
def empty : Cache := ⟨.empty⟩

/-- Keep a value under a key for a time.  The value is kept as text, and writing it cannot fail: it
is made of numbers, texts, lists and records whose keys are texts. -/
def put (now : Nat) (key : String) (value : Json) (lifetime : Nat) (c : Cache) : Cache :=
  ⟨c.entries.put key ⟨value.render, now, lifetime⟩⟩

/-- The value under a key. -/
def get? {α : Type} (decode : Decoder α) (now : Nat) (key : String) (c : Cache) : Option α :=
  match (c.entries.get? key).filter (·.isLive now) with
  | some e => (decode.parse e.json).toOption
  | none => none

/-- The number of entries, whether their time is over or not. -/
def size (c : Cache) : Nat := c.entries.size

/-- Take out the entries whose time is over; gives their number. -/
def purge (now : Nat) (c : Cache) : Nat × Cache :=
  let kept := c.entries.keep fun _ e ↦ e.isLive now
  (c.entries.size - kept.size, ⟨kept⟩)

/-! ## Keys -/

/-- The key of a page of the feed of everybody. -/
def feedKey (page size : Int) : String :=
  "cache:global_feed:page:" ++ Decimal.render page ++ ":size:" ++ Decimal.render size

/-- The key of the trending hashtags. -/
def trendingKey (limit : Int) : String :=
  "cache:trending_hashtags:limit:" ++ Decimal.render limit

end Cache

end Microblog
