import Microblog.Cache
import Microblog.Proofs.Keyed
import Microblog.Proofs.Text.Decimal

/-!
# The keys and the entries of the cache

No two pages of the feed of everybody share a key, nor do two limits of the trending hashtags, nor
does a page with a limit (`Cache.feedKey_injective`, `Cache.trendingKey_injective`,
`Cache.feedKey_ne_trendingKey`).  An integer is written without a colon, so that the colons in a key
say where its integers begin and end.

`Cache.get?_eq_some_iff` says what a look-up finds.
-/

set_option autoImplicit false

namespace Microblog

open Text

namespace Cache

/-! ## Keys -/

theorem toList_render (n : Int) : (Decimal.render n).toList = Decimal.renderChars n :=
  String.toList_ofList

theorem toList_feedKey (page size : Int) :
    (feedKey page size).toList = "cache:global_feed:page:".toList ++
      (Decimal.renderChars page ++ (":size:".toList ++ Decimal.renderChars size)) := by
  unfold feedKey
  rw [String.toList_append, String.toList_append, String.toList_append, toList_render,
    toList_render, List.append_assoc, List.append_assoc]

theorem toList_trendingKey (limit : Int) :
    (trendingKey limit).toList =
      "cache:trending_hashtags:limit:".toList ++ Decimal.renderChars limit := by
  unfold trendingKey
  rw [String.toList_append, toList_render]

/-- Two lists with a colon are the same only if they are so before the first colon and after it. -/
theorem append_colon_inj {cs cs' ds ds' : List Char} (hcs : ':' ∉ cs) (hcs' : ':' ∉ cs')
    (h : cs ++ ':' :: ds = cs' ++ ':' :: ds') : cs = cs' ∧ ds = ds' := by
  induction cs generalizing cs' with
  | nil =>
    cases cs' with
    | nil => exact ⟨rfl, (List.cons.inj h).2⟩
    | cons c' cs' => exact absurd ((List.cons.inj h).1 ▸ List.mem_cons_self) hcs'
  | cons c cs ih =>
    cases cs' with
    | nil => exact absurd ((List.cons.inj h).1.symm ▸ List.mem_cons_self) hcs
    | cons c' cs' =>
      obtain ⟨hhead, htail⟩ := List.cons.inj h
      have hrest := ih (fun hmem ↦ hcs (List.mem_cons_of_mem _ hmem))
        (fun hmem ↦ hcs' (List.mem_cons_of_mem _ hmem)) htail
      exact ⟨by rw [hhead, hrest.1], hrest.2⟩

/-- Different pages have different keys. -/
theorem feedKey_injective {page size page' size' : Int}
    (h : feedKey page size = feedKey page' size') : page = page' ∧ size = size' := by
  have hchars := congrArg String.toList h
  rw [toList_feedKey, toList_feedKey, List.append_cancel_left_eq] at hchars
  have hcolon : ∀ n : Int, ':' ∉ Decimal.renderChars n := fun n ↦
    Decimal.not_mem_renderChars rfl (by decide)
  have hsize : ":size:".toList = ':' :: "size:".toList := by decide
  rw [hsize, List.cons_append, List.cons_append] at hchars
  obtain ⟨hpage, hrest⟩ := append_colon_inj (hcolon page) (hcolon page') hchars
  rw [List.append_cancel_left_eq] at hrest
  exact ⟨Decimal.renderChars_injective hpage, Decimal.renderChars_injective hrest⟩

/-- Different limits have different keys. -/
theorem trendingKey_injective {limit limit' : Int} (h : trendingKey limit = trendingKey limit') :
    limit = limit' := by
  have hchars := congrArg String.toList h
  rw [toList_trendingKey, toList_trendingKey, List.append_cancel_left_eq] at hchars
  exact Decimal.renderChars_injective hchars

/-- No page has the key of a limit. -/
theorem feedKey_ne_trendingKey (page size limit : Int) :
    feedKey page size ≠ trendingKey limit := by
  intro h
  have hchars := congrArg String.toList h
  have hfeed : "cache:global_feed:page:".toList =
      "cache:".toList ++ 'g' :: "lobal_feed:page:".toList := by decide
  have htrending : "cache:trending_hashtags:limit:".toList =
      "cache:".toList ++ 't' :: "rending_hashtags:limit:".toList := by decide
  rw [toList_feedKey, toList_trendingKey, hfeed, htrending, List.append_assoc, List.append_assoc,
    List.append_cancel_left_eq] at hchars
  exact absurd (List.cons.inj hchars).1 (by decide)

/-! ## Look-ups -/

section LookUps

variable {α : Type} {decode : Decoder α} {now now' lifetime : Nat} {key : String} {value : Json}
  {c : Cache} {a : α}

theorem isLive_iff {e : CacheEntry} : e.isLive now = true ↔ now - e.cachedAt < e.lifetime :=
  decide_eq_true_iff

theorem isLive_eq_false_iff {e : CacheEntry} :
    e.isLive now = false ↔ e.lifetime ≤ now - e.cachedAt := by
  rw [← Bool.not_eq_true, isLive_iff, Nat.not_lt]

/-- An entry whose time is not over later is one whose time is not over now. -/
theorem filter_isLive_filter (h : now ≤ now') (o : Option CacheEntry) :
    (o.filter (·.isLive now)).filter (·.isLive now') = o.filter (·.isLive now') := by
  rw [Option.filter_filter]
  congr 1
  funext e
  rw [Bool.and_eq_right_iff_imp, isLive_iff, isLive_iff]
  omega

/-- A look-up depends on the entry of its key only. -/
theorem get?_eq_bind : c.get? decode now key = ((c.entries.get? key).filter (·.isLive now)).bind
    fun e ↦ (decode.parse e.json).toOption := by
  rw [get?]
  split <;> simp [*]

/-- What is found is what the text of an entry spells whose time is not over. -/
theorem get?_eq_some_iff : c.get? decode now key = some a ↔
    ∃ e, c.entries.get? key = some e ∧ now - e.cachedAt < e.lifetime ∧
      decode.parse e.json = .ok a := by
  rw [get?_eq_bind, Option.bind_eq_some_iff]
  refine exists_congr fun e ↦ ?_
  rw [Option.filter_eq_some_iff, isLive_iff, and_assoc]
  refine and_congr_right fun _ ↦ and_congr_right fun _ ↦ ?_
  cases decode.parse e.json <;> simp [Except.toOption]

/-- What was put last is found until its time is over, if it can be read. -/
theorem get?_put_eq_some_iff : (c.put now key value lifetime).get? decode now' key = some a ↔
    now' - now < lifetime ∧ decode.parse value.render = .ok a := by
  rw [get?_eq_some_iff, put, Keyed.get?_put_self]
  constructor
  · rintro ⟨e, he, hlive, hparse⟩
    obtain rfl := Option.some.inj he
    exact ⟨hlive, hparse⟩
  · rintro ⟨hlive, hparse⟩
    exact ⟨_, rfl, hlive, hparse⟩

/-- A purge leaves the entries whose time is not over. -/
theorem entries_purge : (c.purge now).2.entries.get? key =
    (c.entries.get? key).filter (·.isLive now) :=
  Keyed.get?_keep

end LookUps

end Cache

end Microblog
