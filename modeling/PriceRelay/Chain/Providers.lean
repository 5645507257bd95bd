import PriceRelay.Text.Duration
import PriceRelay.World
/-!
Several nodes behind one: they are asked in order until one answers, all within one limit.
-/

namespace PriceRelay

namespace Rpc

/-- What is said of a provider that failed. -/
def providerFailed (failure : Failure) : Event :=
  ⟨.provider, .warn, "RPC provider failed, trying next", failure.message⟩

/-- Ask one node after another, until one answers. -/
def firstAnswer (call : RpcCall) : List Rpc → Failure → Attempt call.Answer
  | [], last => .done (.error last)
  | rpc :: rest, _ =>
    (rpc.request call).bind fun
      | .ok answer => .done (.ok answer)
      | .error failure =>
        (Task.note (providerFailed failure)).bind fun _ => firstAnswer call rest failure

def allTimedOut (call : RpcCall) (limit : Millis) : Failure :=
  .text s!"{call.name}: all providers timed out after {Text.duration limit}"

/-- The nodes in order, within a limit. -/
def fallback (nodes : List Rpc) (limit : Millis) : Rpc where
  request call :=
    (Activity.within limit (firstAnswer call nodes (.text s!"{call.name}: no providers"))).bind
      fun
        | some answer => .done answer
        | none => .done (.error (allTimedOut call limit))

def noProviders : Failure := .text "At least one RPC provider is required"

/-- There has to be a node. -/
def fallback? (nodes : List Rpc) (limit : Millis) : Except Failure Rpc :=
  if nodes.isEmpty then .error noProviders else .ok (fallback nodes limit)

/-- Report the failures of a node. -/
def observed (rpc : Rpc) : Rpc where
  request call :=
    (rpc.request call).bind fun
      | .ok answer => .done (.ok answer)
      | .error failure =>
        (Task.note ⟨.provider, .warn, "RPC call failed", failure.message⟩).bind fun _ =>
          .done (.error failure)

end Rpc

end PriceRelay
