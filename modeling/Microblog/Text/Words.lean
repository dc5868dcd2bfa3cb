import Microblog.Text.Lowercase

/-!
# Search words

A search query is read as the maximal runs of ASCII letters and digits in it, in lowercase.  All
other characters only separate words.
-/

set_option autoImplicit false

namespace Microblog.Text

/-- The words of a query, in order and with repetitions. -/
def words (query : String) : List String :=
  ((query.toList.splitOnP fun c ↦ !c.isAlphanum).filter (· ≠ [])).map fun word ↦
    foldAscii (.ofList word)

end Microblog.Text
