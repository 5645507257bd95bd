import PriceRelay.Proofs.Auction.FirstWin
import PriceRelay.Proofs.Bytes.Hex
import PriceRelay.Proofs.Iteration.Questions
/-!
What a relayer signs for the auction. The message can be read back, so it stands for one chain, one
adapter and one payload, and these are what the request says that goes out with the signature.
-/

namespace PriceRelay

namespace AuctionRequest

/-! The message, read at its colons. -/

def cut (characters : List Char) : List Char × List Char :=
  (characters.takeWhile (· ≠ ':'), (characters.dropWhile (· ≠ ':')).tail)

/-- Read a signed message: its chain, adapter and payload. -/
def readMessage? (message : String) : Option (Nat × Address × Bytes) := do
  let (chain, rest) := cut message.toList
  let (adapter, payload) := cut rest
  let chain ← Hex.quantity? (String.ofList chain)
  let adapter ← Hex.decodeFixed? 20 (String.ofList adapter)
  let payload ← Hex.decode? (String.ofList payload)
  return (chain, adapter, payload)

theorem cut_append {first : List Char} (plain : ':' ∉ first) (rest : List Char) :
    cut (first ++ ':' :: rest) = (first, rest) := by
  have before (c : Char) (member : c ∈ first) : decide (c ≠ ':') = true :=
    decide_eq_true fun colon => plain (colon ▸ member)
  rw [cut, List.takeWhile_append_of_pos before, List.dropWhile_append_of_pos before]
  simp

theorem colon_notMem {digits : List Char} (each : ∀ c ∈ digits, (Hex.digitValue? c).isSome) :
    ':' ∉ '0' :: 'x' :: digits := by
  intro member
  have colon : ':' ∈ digits := by simpa using member
  cases each ':' colon

theorem toList_message (chain : Nat) (adapter : Address) (payload : Bytes) :
    (message chain adapter payload).toList =
      (chainText chain).toList ++ ':' ::
        ((checksummed adapter).toList ++ ':' :: (Hex.encode payload).toList) := by
  simp [message, toString]

theorem colon_notMem_chainText (chain : Nat) : ':' ∉ (chainText chain).toList := by
  rw [chainText, Hex.toList_quantity]
  exact colon_notMem fun c member => Hex.isSome_of_foldlM (Hex.foldlM_toDigits chain) member

theorem chainText_inj {chain other : Nat} : chainText chain = chainText other ↔ chain = other :=
  eq_iff_of_reads Hex.quantity?_quantity

theorem checksummed_digits (address : Address) :
    ∃ mixed, (checksummed address).toList = '0' :: 'x' :: mixed ∧
      Hex.ofDigits? mixed = some address.bytes := by
  obtain ⟨mixed, text, same⟩ := checksummed_reads address
  rw [text, String.toList_ofList]
  exact ⟨mixed, rfl, (Hex.ofDigits?_congr same).trans (Hex.ofDigits?_digits address.bytes)⟩

theorem colon_notMem_checksummed (address : Address) : ':' ∉ (checksummed address).toList := by
  obtain ⟨mixed, text, reads⟩ := checksummed_digits address
  rw [text]
  exact colon_notMem fun c member => Hex.isSome_of_ofDigits? reads member

theorem decodeFixed?_checksummed (address : Address) :
    Hex.decodeFixed? 20 (checksummed address) = some address := by
  obtain ⟨mixed, text, reads⟩ := checksummed_digits address
  rw [Hex.decodeFixed?, Hex.decode?, text]
  simp only [reads, Option.bind_eq_bind, Option.bind_some, FixedBytes.ofBytes?_bytes]

theorem readMessage?_message (chain : Nat) (adapter : Address) (payload : Bytes) :
    readMessage? (message chain adapter payload) = some (chain, adapter, payload) := by
  have quantity : Hex.quantity? (chainText chain) = some chain := Hex.quantity?_quantity chain
  simp only [readMessage?, toList_message, cut_append (colon_notMem_chainText chain),
    cut_append (colon_notMem_checksummed adapter), String.ofList_toList, quantity,
    decodeFixed?_checksummed, Hex.decode?_encode, Option.bind_eq_bind, Option.bind_some,
    Option.pure_def]

theorem message_eq_iff {chain other : Nat} {adapter another : Address} {payload more : Bytes} :
    message chain adapter payload = message other another more ↔
      chain = other ∧ adapter = another ∧ payload = more := by
  let write (parts : Nat × Address × Bytes) : String := message parts.1 parts.2.1 parts.2.2
  have reads (parts : Nat × Address × Bytes) : readMessage? (write parts) = some parts :=
    readMessage?_message parts.1 parts.2.1 parts.2.2
  have same : write (chain, adapter, payload) = write (other, another, more) ↔ _ :=
    eq_iff_of_reads reads
  rw [same, Prod.mk.injEq, Prod.mk.injEq]

/-! The request that the message stands for. -/

def members : Document → List (String × Document)
  | .object members => members
  | _ => []

/-- What a request says of adapter, payload and chain. -/
def bound (request : AuctionRequest) : List (String × Document) :=
  (members request.document).filter fun member =>
    member.1 ∈ ["adapter", "updatePayload", "chainId"]

theorem bound_eq (request : AuctionRequest) :
    request.bound = [("adapter", .text request.adapter.lower),
      ("updatePayload", .text (Hex.encode request.payload)), ("chainId", .text request.chain)] :=
  rfl

theorem bound_eq_iff {request other : AuctionRequest} :
    request.bound = other.bound ↔ request.adapter = other.adapter ∧
      request.payload = other.payload ∧ request.chain = other.chain := by
  have addresses (first second : Address) : first.lower = second.lower ↔ first = second := by
    rw [FixedBytes.lower, FixedBytes.lower, Hex.encode_inj, FixedBytes.mk.injEq]
  simp [bound_eq, addresses, Hex.encode_inj]

end AuctionRequest

/-- Neither a signature nor bids are asked for. -/
def Ask.Apart : Ask → Prop
  | .sign _ | .bids .. => False
  | _ => True

namespace AuctionLane

open Activity AuctionRequest

/-- A leg has its message signed, and sends a request with the signature if there is one. Nothing
else is signed or offered, unless its node or its contract does so to answer. -/
inductive SignsAndSends (lane : AuctionLane) (block : Nat) (leg : FeedId) (call : UpdateCall) :
    List (Exchange world) → Prop where
  | refused (delay : Millis) (failure : Failure) :
      SignsAndSends lane block leg call
        [⟨.sign (message lane.chain lane.adapter.contract call.data), delay, .error failure⟩]
  | sent (delay : Millis) (signature : Bytes) (answer : Timed (List Bytes))
      {rest : List (Exchange world)}
      (apart : lane.UsesAt block Ask.Apart → ∀ exchange ∈ rest, exchange.question.Apart) :
      SignsAndSends lane block leg call
        (⟨.sign (message lane.chain lane.adapter.contract call.data), delay, .ok signature⟩ ::
          ⟨.bids leg (lane.request call.data signature), answer⟩ :: rest)

def Sends (trace : List (Exchange world)) (message : String) (request : AuctionRequest) : Prop :=
  ∃ delay leg answer rest, trace =
    ⟨.sign message, delay, .ok request.signature⟩ :: ⟨.bids leg request, answer⟩ :: rest

/-- In a course of some leg the message is signed and the request goes out with the signature. -/
def LegSends (message : String) (request : AuctionRequest) : Prop :=
  ∃ (lane : AuctionLane) (packages : PackageSet) (block : Nat) (leg : FeedId) (call : UpdateCall)
    (trace : List (Exchange world)) (elapsed : Millis) (result : Except AuctionFailure AuctionWin),
    (lane.runLeg packages block leg call).Ends trace elapsed result ∧ Sends trace message request

section

variable {lane : AuctionLane} {packages : PackageSet} {block : Nat} {leg : FeedId}
  {call : UpdateCall} {trace : List (Exchange world)} {elapsed : Millis}

theorem ends_sign {text : String} {outcome : Except Failure Bytes}
    (ends : (Task.sign text).Ends trace elapsed outcome) :
    ∃ delay, trace = [⟨.sign text, delay, outcome⟩] := by
  obtain ⟨⟨delay, answer⟩, rest, rfl, settled⟩ := ends_ask_iff.mp ends
  obtain ⟨rfl, rfl⟩ := Task.ends_settle settled
  exact ⟨delay, rfl⟩

theorem ends_blobs {request : AuctionRequest} {outcome : Except AuctionFailure (List Bytes)}
    (ends : (lane.blobs leg request).Ends trace elapsed outcome) :
    ∃ answer, trace = [⟨.bids leg request, answer⟩] := by
  obtain ⟨asking, closing, early, late, answer?, rfl, rfl, asked, ended⟩ := ends_bind_iff.mp ends
  obtain ⟨answer, waiting, rfl, waited⟩ := ends_ask_iff.mp asked
  have done : closing = [] := by
    split at ended <;> exact (ends_done_iff.mp ended).1
  rw [Task.within_settle_quiet waited, done]
  exact ⟨answer, rfl⟩

/-- Every leg signs and sends so. -/
theorem runLeg_signsAndSends {result : Except AuctionFailure AuctionWin}
    (ends : (lane.runLeg packages block leg call).Ends trace elapsed result) :
    lane.SignsAndSends block leg call trace := by
  rcases ends_andThen ends with ⟨reason, signing, rfl⟩ |
    ⟨signing, onward, early, late, signature, rfl, rfl, signing, sending⟩
  · rcases trial_ends signing with ⟨failure, own, -⟩ | ⟨_, _, same⟩
    · obtain ⟨delay, rfl⟩ := ends_sign own
      exact .refused delay failure
    · cases same
  · rcases trial_ends signing with ⟨_, _, same⟩ | ⟨value, own, same⟩
    · cases same
    cases same
    obtain ⟨delay, rfl⟩ := ends_sign own
    rcases ends_andThen sending with ⟨reason, sent, -⟩ |
      ⟨sending, racing, early, late, blobs, rfl, -, sent, raced⟩
    · obtain ⟨answer, rfl⟩ := ends_blobs sent
      exact .sent delay signature answer fun _ _ member => nomatch member
    · obtain ⟨answer, rfl⟩ := ends_blobs sent
      -- What came back is checked, which takes the node and the contract, and reports.
      refine .sent delay signature answer fun uses exchange member => ?_
      have first : (lane.firstVerified leg call.feeds packages block blobs).Uses Ask.Apart :=
        firstVerified_uses (fun _ => trivial) uses leg call.feeds blobs
      have notes : (Task.note verified).Uses Ask.Apart := ⟨trivial, fun _ => trivial⟩
      refine Uses.asked (first.andThen fun hash => ?_) raced member
      exact notes.bind fun _ => trivial

/-- What a leg sends with a signature says what it has signed. -/
theorem SignsAndSends.tells {message : String} {request : AuctionRequest}
    (leg : lane.SignsAndSends block leg call trace) (sends : Sends trace message request) :
    message = AuctionRequest.message lane.chain lane.adapter.contract call.data ∧
      request.adapter = lane.adapter.contract ∧ request.payload = call.data ∧
      request.chain = chainText lane.chain := by
  obtain ⟨delay, name, answer, rest, same⟩ := sends
  obtain ⟨adapter, payload, signature, earlyReturn, chain⟩ := request
  cases leg with
  | refused delay failure => cases same
  | sent delay signature answer apart =>
    cases same
    exact ⟨rfl, rfl, rfl, rfl⟩

end

theorem LegSends.tells {text : String} {request : AuctionRequest} (sends : LegSends text request) :
    ∃ chain, text = message chain request.adapter request.payload ∧
      request.chain = chainText chain := by
  obtain ⟨lane, packages, block, leg, call, trace, elapsed, result, ends, sends⟩ := sends
  obtain ⟨rfl, adapter, payload, chain⟩ := (runLeg_signsAndSends ends).tells sends
  exact ⟨lane.chain, by rw [adapter, payload], chain⟩

/-- Messages are the same for the same chain, adapter and payload only. A leg signs one and sends a
request with the signature, and the messages of any two legs are the same exactly where their
requests say the same of adapter, payload and chain. -/
theorem runLeg_binds :
    (∀ (chain other : Nat) (adapter another : Address) (payload more : Bytes),
      message chain adapter payload = message other another more ↔
        chain = other ∧ adapter = another ∧ payload = more) ∧
    (∀ (lane : AuctionLane) packages block leg call trace elapsed result,
      (lane.runLeg packages block leg call).Ends trace elapsed result →
        lane.SignsAndSends block leg call trace) ∧
    ∀ text more request other, LegSends text request → LegSends more other →
      (text = more ↔ request.bound = other.bound) := by
  refine ⟨fun _ _ _ _ _ _ => message_eq_iff, fun _ _ _ _ _ _ _ _ => runLeg_signsAndSends, ?_⟩
  intro text more request other sends resends
  obtain ⟨chain, rfl, said⟩ := sends.tells
  obtain ⟨chain', rfl, said'⟩ := resends.tells
  rw [message_eq_iff, bound_eq_iff, said, said', chainText_inj]
  constructor
  · rintro ⟨chains, adapters, payloads⟩
    exact ⟨adapters, payloads, chains⟩
  · rintro ⟨adapters, payloads, chains⟩
    exact ⟨chains, adapters, payloads⟩

def sampleRequest (chain : Nat) : AuctionRequest :=
  { sampleLane 5 with chain }.request sampleCall.data []

theorem sampleRequest_sends (chain : Nat) :
    LegSends (message chain sampleContract sampleCall.data) (sampleRequest chain) := by
  let lane : AuctionLane := { sampleLane 5 with chain }
  have ends := run_ends sampleWorld (lane.runLeg samplePackages 1 batchLeg sampleCall) ()
  exact ⟨lane, samplePackages, 1, batchLeg, sampleCall, _, _, _, ends, 0, batchLeg,
    ⟨0, .ok [sampleBlob]⟩, _, rfl⟩

/-- The same update for two chains is signed twice, with a message for each. -/
theorem runLeg_binds_twoChains :
    LegSends (message 1 sampleContract sampleCall.data) (sampleRequest 1) ∧
      LegSends (message 10 sampleContract sampleCall.data) (sampleRequest 10) ∧
      (sampleRequest 1).bound ≠ (sampleRequest 10).bound ∧
      message 1 sampleContract sampleCall.data ≠ message 10 sampleContract sampleCall.data := by
  have differ : (sampleRequest 1).bound ≠ (sampleRequest 10).bound := by
    intro same
    have chains := (bound_eq_iff.mp same).2.2
    exact absurd chains (by decide)
  refine ⟨sampleRequest_sends 1, sampleRequest_sends 10, differ, ?_⟩
  intro same
  exact differ ((runLeg_binds.2.2 _ _ _ _ (sampleRequest_sends 1) (sampleRequest_sends 10)).mp same)

end AuctionLane

end PriceRelay
