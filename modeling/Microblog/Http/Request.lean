import Microblog.Http.Header
import Microblog.Http.Target

/-!
# Requests

A request has a method, a target, headers and a body.
-/

set_option autoImplicit false

namespace Microblog

/-- The method of a request. -/
inductive Method where
  | get
  | head
  | post
  | put
  | patch
  | delete
  | options
  /-- A method that nothing here knows. -/
  | other (name : String)
deriving DecidableEq, Repr

namespace Method

/-- The word for a method. -/
def name : Method → String
  | get => "GET"
  | head => "HEAD"
  | post => "POST"
  | put => "PUT"
  | patch => "PATCH"
  | delete => "DELETE"
  | options => "OPTIONS"
  | other name => name

/-- The method that a word names; words differ in small and large letters. -/
def ofName (name : String) : Method :=
  match name with
  | "GET" => get
  | "HEAD" => head
  | "POST" => post
  | "PUT" => put
  | "PATCH" => patch
  | "DELETE" => delete
  | "OPTIONS" => options
  | name => other name

end Method

/-- A request. -/
structure Request where
  method : Method
  target : Target
  headers : Headers
  body : String
  /-- The address of the connection. -/
  peer : Option String

namespace Request

/-- The request with these parts, if they are possible. -/
def of? (method target : String) (headers : Headers) (body : String) (peer : Option String) :
    Option Request :=
  if Headers.isToken method ∧ headers.areValid then
    (Target.ofText? target).map fun target ↦ ⟨.ofName method, target, headers, body, peer⟩
  else none

end Request

end Microblog
