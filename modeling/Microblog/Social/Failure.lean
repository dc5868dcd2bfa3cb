import Microblog.Page
import Microblog.Report
import Microblog.Store.Error
import Microblog.Timeline.Hydration

/-!
# Failures

A `Failure` is the reason why a request to the application could not be met.  `Failure.report` says
how it is told.
-/

set_option autoImplicit false

namespace Microblog

open Text

/-- Why a request could not be met. -/
inductive Failure where
  /-- The page that was asked for is none. -/
  | page (refusal : Page.Refusal)
  /-- A tweet has to have a text. -/
  | noText
  /-- Nobody follows themselves. -/
  | ownFollow
  /-- Only somebody who is known may do this. -/
  | anonymous
  /-- Whoever does this has no account. -/
  | unknownViewer
  /-- Only the author deletes a tweet. -/
  | notAuthor
  | noTweet
  | noUser
  /-- The author of a stored tweet does not exist. -/
  | noAuthor (author tweet : Int)
  | alreadyRetweeted
  /-- The store failed. -/
  | store (e : StoreError)
  /-- The store failed while the authors of tweets were loaded. -/
  | authors (e : StoreError)
  /-- The store failed while the tweets that others refer to were loaded. -/
  | references (e : StoreError)
deriving DecidableEq, Repr

/-- The refusal in words. -/
def Page.Refusal.message : Page.Refusal → String
  | .negativePage => "page must be >= 0"
  | .emptySize => "size must be >= 1"
  | .outOfRange => "page is out of range"

namespace HydrationError

/-- How a failed hydration is told. -/
def report {ε : Type} : HydrationError ε → Report
  | .authors _ => ⟨.internal, "Failed to load tweet authors"⟩
  | .references _ => ⟨.internal, "Failed to load referenced tweets"⟩
  | .noAuthor author tweet =>
    ⟨.notFound, "author " ++ Decimal.render author ++ " of tweet " ++ Decimal.render tweet ++
      " not found"⟩

/-- A failed hydration from the store, as a failure of the application. -/
def failure : HydrationError StoreError → Failure
  | .authors e => Failure.authors e
  | .references e => Failure.references e
  | .noAuthor author tweet => Failure.noAuthor author tweet

end HydrationError

namespace Failure

/-- How a failure is told. -/
def report : Failure → Report
  | page refusal => ⟨.badRequest, refusal.message⟩
  | noText => ⟨.badRequest, "tweet must include text"⟩
  | ownFollow => ⟨.badRequest, "you cannot follow yourself"⟩
  | anonymous => ⟨.unauthorized, "authentication required"⟩
  | unknownViewer => ⟨.unauthorized, "unknown viewer"⟩
  | notAuthor => ⟨.forbidden, "you can only delete your own tweets"⟩
  | noTweet => ⟨.notFound, "tweet not found"⟩
  | noUser => ⟨.notFound, "user not found"⟩
  | noAuthor author tweet =>
    (HydrationError.noAuthor author tweet : HydrationError StoreError).report
  | alreadyRetweeted => ⟨.conflict, "tweet already retweeted"⟩
  | store e => ⟨.internal, e.message⟩
  | authors e => (HydrationError.authors e).report
  | references e => (HydrationError.references e).report

/-- Why the store failed, if it did. -/
def cause? : Failure → Option Cause
  | store e | authors e | references e => some e.cause
  | _ => none

end Failure

end Microblog
