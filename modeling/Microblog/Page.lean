import Microblog.Text.Decimal

/-!
# Pages of a listing

A `Page` is a window on a listing: the rows from `offset` on, at most `size` of them.  The offset is
the product of page number and size, kept within 64 bits.  A negative size stands for no limit, and
a negative offset for none.
-/

set_option autoImplicit false

namespace Microblog

open Text

/-- `n`, brought into the range of 64 bits. -/
def clamp (n : Int) : Int := max Decimal.least (min n Decimal.greatest)

/-- At most `limit` rows, or all of them if `limit` is negative. -/
def limited {α : Type} (limit : Int) (rows : List α) : List α :=
  if limit < 0 then rows else rows.take limit.toNat

/-- A window on a listing. -/
structure Page where
  page : Int
  size : Int
deriving DecidableEq, Repr

namespace Page

/-- The number of rows on a page when none is asked for. -/
def defaultSize : Int := 20

/-- The greatest number of rows on a page. -/
def maxSize : Int := 50

/-- The number of rows on the page. -/
def limit (p : Page) : Int := p.size

/-- The number of rows before the page. -/
def offset (p : Page) : Int := clamp (p.page * p.size)

/-- The rows on the page. -/
def of {α : Type} (p : Page) (rows : List α) : List α :=
  limited p.limit (rows.drop p.offset.toNat)

/-- Why a page cannot be asked for. -/
inductive Refusal where
  | negativePage
  | emptySize
  | outOfRange
deriving DecidableEq, Repr

/-- The page that the numbers of a request ask for: a size above the greatest is cut down to it, and
the offset has to be an integer of 64 bits. -/
def request (page size : Option Int) : Except Refusal Page :=
  let page := page.getD 0
  let size := size.getD defaultSize
  if page < 0 then .error .negativePage
  else if size < 1 then .error .emptySize
  else
    let size := min size maxSize
    if Decimal.Fits (page * size) then .ok ⟨page, size⟩ else .error .outOfRange

end Page

/-- The limit that a request asks for: `default` if it asks for none or for nothing, and never above
the greatest page size. -/
def clampLimit (limit : Option Int) (default : Int) : Int :=
  min ((limit.filter (0 < ·)).getD default) Page.maxSize

end Microblog
