import PriceRelay.PackageJson
import PriceRelay.World
/-!
Gateways that serve signed packages. All are asked at once, and the first usable answer counts.
-/

namespace PriceRelay

/-- Why a gateway is of no use. -/
inductive GatewayFailure where
  | unreachable (base : String)
  | refused (base : String) (answer : WebAnswer)
  | malformed (base : String)
  deriving DecidableEq

def GatewayFailure.message : GatewayFailure → String
  | .unreachable base => s!"Gateway {base} unreachable"
  | .refused base answer => s!"Gateway {base} error: {answer.statusText} - {answer.body}"
  | .malformed base => s!"Gateway {base} returned malformed packages"

/-- Why there are no packages. -/
inductive PackagesFailure where
  | noGateways
  /-- No gateway was of use, and this is what the last one did. -/
  | allFailed (last : GatewayFailure)
  deriving DecidableEq

namespace PackagesFailure

def message : PackagesFailure → String
  | .noGateways => "No gateway URLs configured"
  | .allFailed _ => "All gateways failed"

/-- What is said of a failure, and then of what is behind it. -/
def messages : PackagesFailure → List String
  | .noGateways => [noGateways.message]
  | .allFailed last => [(allFailed last).message, last.message]

end PackagesFailure

namespace Gateway

private def withoutLastSlashes (text : String) : String :=
  String.ofList (text.toList.reverse.dropWhile (· = '/')).reverse

/-- Where a gateway serves what is asked for. -/
def endpoint (base : String) (request : Request) : String :=
  let base := withoutLastSlashes base
  match request.asOf? with
  | some instant => s!"{base}/v2/data-packages/historical/{request.service}/{instant}"
  | none => s!"{base}/v2/data-packages/latest/{request.service}"

/-- Read an answer. -/
def read (base : String) (answer : WebAnswer) : Except GatewayFailure PackageSet :=
  if answer.isSuccess then
    match PackageJson.read? answer.body with
    | some packages => .ok packages
    | none => .error (.malformed base)
  else .error (.refused base answer)

/-- Ask one gateway, within a limit. -/
def ask (limit : Millis) (request : Request) (base : String) :
    Task (Except GatewayFailure PackageSet) :=
  (Activity.within limit (Task.fetch { method := .get, url := endpoint base request })).bind fun
    | some (.ok answer) => .done (read base answer)
    | _ => .done (.error (.unreachable base))

/-- Ask all gateways, and choose from the first answer. -/
def packages (bases : List String) (limit : Millis) (request : Request) :
    Task (Except PackagesFailure PackageSet) :=
  match bases with
  | [] => .done (.error .noGateways)
  | first :: _ =>
    (Activity.race (.unreachable first) (bases.map (ask limit request))).bind fun
      | .ok answer => .done (.ok (request.select answer.entries))
      | .error last => .done (.error (.allFailed last))

end Gateway

end PriceRelay
