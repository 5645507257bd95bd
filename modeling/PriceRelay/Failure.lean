/-!
Failures as they are reported. Only the outermost text counts; the failures of transport and of
unreadable answers have texts of their own, which nobody looks at.
-/

namespace PriceRelay

inductive Failure where
  | text (message : String)
  /-- A remote end could not be reached, refused, or answered what cannot be read. -/
  | transport
  /-- A contract answered what its interface does not allow. -/
  | undecodable
  deriving DecidableEq, Repr

namespace Failure

def message : Failure → String
  | .text message => message
  | .transport => "transport failure"
  | .undecodable => "undecodable answer"

/-- Say what was being done; the cause is no longer shown. -/
def context (what : String) (_ : Failure) : Failure := .text what

end Failure

end PriceRelay
