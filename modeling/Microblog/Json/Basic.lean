/-!
# JSON values

`Json` is a JSON value.  A number is either an integer or a decimal, and the two stay apart: `1` and
`1.0` are different numbers.
-/

set_option autoImplicit false

namespace Microblog

/-- A JSON number. -/
inductive Number where
  /-- An integer, written with neither point nor exponent. -/
  | int (n : Int)
  /-- The number `± digits · 10 ^ exponent`, written with a point or an exponent. -/
  | decimal (negative : Bool) (digits : Nat) (exponent : Int)
deriving DecidableEq, Repr, Inhabited

/-- A JSON value. -/
inductive Json where
  | null
  | bool (b : Bool)
  | number (n : Number)
  | text (s : String)
  | list (items : List Json)
  | record (members : List (String × Json))
deriving Repr, Inhabited

namespace Json

/-- An integer as a JSON value. -/
def int (n : Int) : Json := .number (.int n)

/-- An optional value, `null` when absent. -/
def option {α : Type} (f : α → Json) : Option α → Json
  | none => .null
  | some a => f a

/-- The value of a member of a record; the last one counts if the name occurs twice. -/
def get? (name : String) : Json → Option Json
  | .record members => (members.reverse.find? (·.1 == name)).map (·.2)
  | _ => none

end Json

end Microblog
