import PriceRelay.Crypto.Checksum
import PriceRelay.Text.Duration
import PriceRelay.World
/-!
Waiting until a transaction is included. Its receipt is looked up again and again until there is
one, within a limit.
-/

namespace PriceRelay.Inclusion

/-- Look up a receipt up to `lookups` times, with a pause after each that finds none. -/
def poll (rpc : Rpc) (hash : Hash) (interval : Millis) : Nat → Task (Option Receipt)
  | 0 => .done none
  | lookups + 1 =>
    (rpc.request (.receipt hash)).bind fun
      | .ok (some receipt) => .done (some receipt)
      | _ => Task.after interval (poll rpc hash interval lookups)

/-- More lookups than this do not fit into the limit. Lookups without a pause in between all fit as
long as their answers take no time, and end at a number that no run reaches. -/
def lookupBound (interval limit : Millis) : Nat :=
  if interval = 0 then 2 ^ 64 else limit / interval + 1

def timedOut (hash : Hash) (limit : Millis) : Failure :=
  .text s!"Timed out after {Text.duration limit} waiting for tx {hash.lower}"

/-- The receipt of a transaction. -/
def wait (rpc : Rpc) (hash : Hash) (interval limit : Millis) : Attempt Receipt :=
  (Activity.within limit (poll rpc hash interval (lookupBound interval limit))).bind fun
    | some (some receipt) => .done (.ok receipt)
    | _ => .done (.error (timedOut hash limit))

private def orElse (default : String) : Option Nat → String
  | some value => toString value
  | none => default

/-- What is said of an included transaction. -/
def included (hash : Hash) (receipt : Receipt) : Event :=
  { reporter := .monitor
    level := if receipt.success then .info else .warn
    message := s!"Transaction {hash.lower} mined with {receipt.label}({receipt.success.toNat}) "
      ++ "in block #" ++ orElse "pending" receipt.block?
      ++ " [tx index: " ++ orElse "?" receipt.index? ++ "]" }

def notObserved (failure : Failure) : Event :=
  ⟨.monitor, .warn, "Transaction receipt not observed", failure.message⟩

/-- Watch a transaction, and report what became of it. -/
def watch (rpc : Rpc) (hash : Hash) (interval limit : Millis) : Task Unit :=
  (wait rpc hash interval limit).bind fun
    | .ok receipt => Task.note (included hash receipt)
    | .error failure => Task.note (notObserved failure)

end PriceRelay.Inclusion
