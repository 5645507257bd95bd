import PriceRelay.Bytes.Utf8
import PriceRelay.Rehearsal.Script
/-!
Scripted partners of a relayer: the holder of the key, and the adapter.
-/

namespace PriceRelay

/-- The scripted answer of an adapter or of the holder of the key. -/
inductive PartnerLine where
  | nothing
  | number (value : Nat)
  | numbers (values : List Nat)
  | bytes (value : Bytes)
  | state (value : ContractState)

namespace PartnerLine

/-- The fees of the transactions that are sent, in turn. -/
def sentFees (number : Nat) : Fees := if number % 2 = 0 then .legacy 7 else .eip1559 20 2 9

/-- The dispatch of the transaction of a number. -/
def dispatched (number : Nat) (hash? : Option Hash) : Dispatched :=
  { hash := hash?.getD (FixedBytes.ofNat 32 (number % 256))
    nonce := number
    gasLimit := 1000000
    fees := sentFees number }

/-- Send the transaction of a number; a scripted answer may replace its hash. -/
def send (script : Script PartnerLine) (number : Nat) : Timed Dispatched × Script PartnerLine :=
  if script.has "submit" then
    let (timed, script) := script.take "submit"
    let hash? : PartnerLine → Option Hash
      | .bytes value => FixedBytes.ofBytes? 32 value
      | _ => none
    (timed.map fun line => dispatched number (hash? line), script)
  else (Timed.now (dispatched number none), script)

end PartnerLine

open Script (misplaced)

/-- A scripted holder of the key. -/
structure SignerRole where
  address : Address := FixedBytes.repeated 20 0xaa
  script : Script PartnerLine := []
  submitted : List UpdateCall := []
  signed : List String := []

namespace SignerRole

def submit (role : SignerRole) (call : UpdateCall) : Timed Dispatched × SignerRole :=
  let role := { role with submitted := call :: role.submitted }
  let (timed, script) := PartnerLine.send role.script role.submitted.length
  (timed, { role with script })

/-- The signature where none is scripted. -/
def defaultSignature : Bytes := List.replicate 65 7

def sign (role : SignerRole) (message : String) : Timed Bytes × SignerRole :=
  let role := { role with signed := message :: role.signed }
  if role.script.has "sign" then
    let (timed, script) := role.script.take "sign"
    (timed.andThen fun
      | .bytes value => .ok value
      | _ => misplaced, { role with script })
  else (Timed.now defaultSignature, role)

end SignerRole

/-- What an adapter was asked. -/
inductive AdapterEntry where
  | readState (feeds : List FeedId) (block : Nat)
  | threshold (block : Nat)
  | build (feeds : List FeedId) (timestamp : Millis)
  | submit (call : UpdateCall)
  | simulate (update : Bytes) (feeds : List FeedId) (block : Nat)

/-- A scripted adapter. -/
structure AdapterRole where
  state : ContractState := FeedMap.empty
  script : Script PartnerLine := []
  /-- The simulated values by feed. -/
  values : Script Nat := []
  submissions : Nat := 0
  record : List AdapterEntry := []

namespace AdapterRole

/-- The state of the feeds that are asked for. -/
def stateFor (state : ContractState) (feeds : List FeedId) : ContractState :=
  FeedMap.ofList (state.entries.filter fun entry => feeds.contains entry.1)

/-- The contract of a scripted adapter. -/
def contract : Address := FixedBytes.repeated 20 0xad

/-- The call of a scripted adapter for some feeds: its data are the feeds. -/
def callFor (feeds : List FeedId) : UpdateCall :=
  { sender := FixedBytes.repeated 20 0xaa
    target := contract
    data := Utf8.encode (",".intercalate feeds)
    feeds }

/-- The call that is built; all feeds need packages. -/
def builtCall (feeds : List FeedId) (packages : PackageSet) : Except Failure UpdateCall :=
  match feeds.find? fun feed => !packages.has feed with
  | some feed => .error (.text s!"No packages for {feed}")
  | none => .ok (callFor feeds)

/-- The simulated value of a feed where none is scripted. -/
def defaultValue : Nat := 100000000

/-- The simulated values of feeds, one after the other. -/
def simulated (values : Script Nat) : List FeedId → Timed (List Nat) × Script Nat
  | [] => (Timed.now [], values)
  | feed :: rest =>
    let (first, values) :=
      if values.has feed then values.take feed else (Timed.now defaultValue, values)
    match first.answer with
    | .error failure => (⟨first.delay, .error failure⟩, values)
    | .ok value =>
      let (more, values) := simulated values rest
      (⟨first.delay + more.delay, more.answer.map (value :: ·)⟩, values)

/-- Take a scripted answer, if the script has the key. -/
def scripted {α : Type} (role : AdapterRole) (key : String)
    (read : PartnerLine → Except Failure α) (default : AdapterRole → Timed α × AdapterRole) :
    Timed α × AdapterRole :=
  if role.script.has key then
    let (timed, script) := role.script.take key
    (timed.andThen read, { role with script })
  else default role

def noted (role : AdapterRole) (entry : AdapterEntry) : AdapterRole :=
  { role with record := entry :: role.record }

def answer (role : AdapterRole) : (call : AdapterCall) → Timed call.Answer × AdapterRole
  | .readState feeds block =>
    (role.noted (.readState feeds block)).scripted "read"
      (fun
        | .state value => .ok value
        | _ => misplaced)
      fun role => (Timed.now (stateFor role.state feeds), role)
  | .threshold block =>
    (role.noted (.threshold block)).scripted "threshold"
      (fun
        | .number value => .ok value
        | _ => misplaced)
      fun role => (Timed.now (1 : Nat), role)
  | .build feeds packages timestamp =>
    match builtCall feeds packages with
    | .ok call => (Timed.now call, role.noted (.build feeds timestamp))
    | .error failure => (⟨0, .error failure⟩, role)
  | .submit call =>
    let role := { role.noted (.submit call) with submissions := role.submissions + 1 }
    let (timed, script) := PartnerLine.send role.script role.submissions
    (timed, { role with script })
  | .simulate update feeds block =>
    (role.noted (.simulate update feeds block)).scripted "simulate"
      (fun
        | .numbers values => .ok values
        | _ => misplaced)
      fun role =>
        let (timed, values) := simulated role.values feeds
        (timed, { role with values })

end AdapterRole

end PriceRelay
