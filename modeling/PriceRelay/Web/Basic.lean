import PriceRelay.Web.Status
/-!
Calls to servers on the web, and their answers.
-/

namespace PriceRelay

inductive WebMethod where
  | get
  | post
  deriving DecidableEq, Repr

structure WebCall where
  method : WebMethod
  url : String
  /-- A JSON document that is sent along. -/
  body? : Option String := none
  deriving DecidableEq, Repr

structure WebAnswer where
  status : Nat
  body : String
  deriving DecidableEq, Repr

namespace WebAnswer

def isSuccess (answer : WebAnswer) : Bool := 200 ≤ answer.status && answer.status < 300

/-- The status in numbers and words. -/
def statusText (answer : WebAnswer) : String :=
  s!"{answer.status} {WebStatus.reason answer.status}"

end WebAnswer

end PriceRelay
