import Microblog.Json.Draft

/-!
# Reading typed values

A `Decoder` asks a draft for a value of one type.  Its answer is the value or the first fault:
either the text stops being JSON (`malformed`) or it is JSON of another type (`mismatched`).

A `Shape` says how a record is read: its fields in order, each with its decoder, and how the value
is put together from them.  A record may come as a JSON record, whose members may stand in any order
and may have others among them, but none of them twice; or as a JSON list of all its fields in
order.
-/

set_option autoImplicit false

namespace Microblog

open Text

/-- What is wrong with a text that should spell a value of some type. -/
inductive Fault where
  /-- The text is not JSON. -/
  | malformed
  /-- The text is JSON, but of another type. -/
  | mismatched
deriving DecidableEq, Repr

/-- Asks a draft for a value. -/
abbrev Decoder (α : Type) := Draft → Except Fault α

namespace Draft

/-- The fault of a draft that is of another type than asked for. -/
def misfit : Draft → Fault
  | .broken => .malformed
  | .text none => .malformed
  | .number none => .malformed
  | _ => .mismatched

/-- A text. -/
def asText : Decoder String
  | .text (some s) => .ok s
  | d => .error d.misfit

/-- A truth value. -/
def asBool : Decoder Bool
  | .bool b => .ok b
  | d => .error d.misfit

/-- An integer of 64 bits. -/
def asInt : Decoder Int
  | .number (some (.int n)) => if Decimal.Fits n then .ok n else .error .mismatched
  | d => .error d.misfit

/-- A value that may be `null`. -/
def asOption {α : Type} (decode : Decoder α) : Decoder (Option α)
  | .null => .ok none
  | d => (decode d).map some

/-- The items of a list, each of the same type. -/
def asItems {α : Type} (decode : Decoder α) : List Draft → Except Fault (List α)
  | [] => .ok []
  | d :: ds => do return (← decode d) :: (← asItems decode ds)

/-- A list of values of the same type. -/
def asList {α : Type} (decode : Decoder α) : Decoder (List α)
  | .list items closed => do
    let values ← asItems decode items
    if closed then .ok values else .error .malformed
  | d => .error d.misfit

/-- Any value. -/
def asJson : Decoder Json := fun d ↦
  match d.toJson? maxDepth with
  | some j => .ok j
  | none => .error .malformed

end Draft

/-- How a record of type `α` is read. -/
structure Shape (α : Type) where
  /-- The fields in order, each with a check that its value is of the right type. -/
  fields : List (String × (Draft → Except Fault Unit))
  /-- The record, from the values found under the names of the fields. -/
  build : (String → Option Draft) → Except Fault α

namespace Shape

variable {α β : Type}

/-- A record without fields. -/
def of (a : α) : Shape α := ⟨[], fun _ ↦ .ok a⟩

/-- The record as part of a larger one. -/
def map (f : α → β) (shape : Shape α) : Shape β where
  fields := shape.fields
  build look := (shape.build look).map f

/-- One more field, which has to be there. -/
def required (shape : Shape (α → β)) (name : String) (decode : Decoder α) : Shape β where
  fields := shape.fields ++ [(name, fun d ↦ (decode d).map fun _ ↦ ())]
  build look := do
    let f ← shape.build look
    match look name with
    | some d => return f (← decode d)
    | none => .error .mismatched

/-- One more field, which may be `null` or left out. -/
def optional (shape : Shape (Option α → β)) (name : String) (decode : Decoder α) : Shape β where
  fields := shape.fields ++ [(name, fun d ↦ (Draft.asOption decode d).map fun _ ↦ ())]
  build look := do
    let f ← shape.build look
    match look name with
    | some d => return f (← Draft.asOption decode d)
    | none => return f none

/-- The values of the fields among the members of a record, in the order in which they come; `skips`
says which values the record may hold beside them. -/
def gather (shape : Shape α) (skips : Draft → Bool) :
    List (String × Draft) → List (Option String × Draft) → Except Fault (List (String × Draft))
  | found, [] => .ok found
  | _, (none, _) :: _ => .error .malformed
  | found, (some name, d) :: members =>
    match shape.fields.lookup name with
    | none => if skips d then gather shape skips found members else .error .malformed
    | some check =>
      if (found.lookup name).isSome then .error .mismatched
      else
        match check d with
        | .error fault => .error fault
        | .ok () => gather shape skips (found ++ [(name, d)]) members

/-- The values of the fields in a list of them in order. -/
def align (closed : Bool) :
    List (String × (Draft → Except Fault Unit)) → List Draft →
      Except Fault (List (String × Draft))
  | [], [] => if closed then .ok [] else .error .malformed
  | [], _ :: _ => .error .malformed
  | _ :: _, [] => .error (if closed then .mismatched else .malformed)
  | (name, check) :: fields, d :: ds => do
    check d
    return (name, d) :: (← align closed fields ds)

/-- Read a JSON record, where `skips` says which values it may hold beside the fields. -/
def decodeMembers (shape : Shape α) (skips : Draft → Bool)
    (members : List (Option String × Draft)) (closed : Bool) : Except Fault α := do
  let found ← shape.gather skips [] members
  if closed then shape.build (fun name ↦ found.lookup name) else .error .malformed

/-- Read a record, given as a JSON record or as a list of its fields.  What stands beside the fields
only has to be JSON. -/
def decode (shape : Shape α) : Decoder α
  | .record members closed => shape.decodeMembers Draft.isWhole members closed
  | .list items closed => do
    let found ← align closed shape.fields items
    shape.build fun name ↦ found.lookup name
  | d => .error d.misfit

/-- Read a record that is joined from several: it is given as a JSON record, and what stands beside
its fields has to be readable too. -/
def decodeJoined (shape : Shape α) : Decoder α
  | .record members closed =>
    shape.decodeMembers (fun d ↦ (d.toJson? (Draft.maxDepth - 1)).isSome) members closed
  | d => .error d.misfit

end Shape

/-- Read a text that consists of one value. -/
def Decoder.parse {α : Type} (decode : Decoder α) (s : String) : Except Fault α :=
  decode (Draft.readWhole s.toList)

end Microblog
