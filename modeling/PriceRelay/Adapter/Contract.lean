import PriceRelay.Adapter.Abi
import PriceRelay.Contract
/-!
The functions of the adapter contracts, and of the contract that makes several calls as one.
-/

namespace PriceRelay

namespace AdapterContract

/-- The lists of slots that functions take. -/
private def slotsCall (signature : String) (slots : List Hash) : Bytes :=
  Abi.selector signature ++ Abi.behindOffset (Abi.list (slots.map (·.bytes)))

/-- The stored state of each feed. -/
def detailsCall : List Hash → Bytes := slotsCall "getLastUpdateDetailsUnsafeForMany(bytes32[])"

/-- The stored values. -/
def valuesCall : List Hash → Bytes := slotsCall "getValuesForDataFeeds(bytes32[])"

/-- Write some feeds. -/
def updateSomeCall : List Hash → Bytes := slotsCall "updateDataFeedsValuesPartial(bytes32[])"

/-- Write all feeds under one timestamp. -/
def updateAllCall (proposed : Millis) : Bytes :=
  Abi.selector "updateDataFeedsValues(uint256)" ++ Abi.word proposed

/-- The timestamps of the last update of all feeds. -/
def timestampsCall : Bytes := Abi.selector "getTimestampsFromLatestUpdate()"

def thresholdCall : Bytes := Abi.selector "getUniqueSignersThreshold()"

/-- Seconds of the chain as milliseconds; sums stop at the largest. -/
def millisOfSeconds (seconds : Nat) : Millis := min (min seconds maxMillis * 1000) maxMillis

def snapshot (dataTimestamp blockSeconds value : Nat) : Snapshot :=
  ⟨min dataTimestamp maxMillis, millisOfSeconds blockSeconds, value⟩

def details : List Nat → Option (List Snapshot)
  | [] => some []
  | dataTimestamp :: blockSeconds :: value :: rest => do
    return snapshot dataTimestamp blockSeconds value :: (← details rest)
  | _ => none

/-- The answer to `detailsCall`. -/
def details? (answer : Bytes) : Option (List Snapshot) := do details (← Abi.list? 3 answer)

/-- The answer to `valuesCall`. -/
def values? (answer : Bytes) : Option (List Nat) := Abi.list? 1 answer

/-- The answer to `timestampsCall`: two numbers of 128 bits. -/
def timestamps? (answer : Bytes) : Option (Nat × Nat) := do
  match ← Abi.words? answer with
  | [dataTimestamp, blockSeconds] =>
    if dataTimestamp < 2 ^ 128 && blockSeconds < 2 ^ 128 then return (dataTimestamp, blockSeconds)
    else none
  | _ => none

/-- The answer to `thresholdCall`. -/
def threshold? (answer : Bytes) : Option Nat := Abi.natural? 256 answer

end AdapterContract

namespace Multicall

/-- The contract has the same address on every chain. -/
def address : Address := FixedBytes.ofNat 20 0xca11bde05977b3631167028862be2a173976ca11

/-- One of several calls; none may fail. -/
private def item (target : Address) (data : Bytes) : Bytes :=
  Abi.address target ++ Abi.bool false ++ Abi.word (3 * Abi.wordSize) ++ Abi.bytes data

/-- Several calls of one contract, each seeing what those before it wrote. -/
def call (target : Address) (datas : List Bytes) : Bytes :=
  Abi.selector "aggregate3((address,bool,bytes)[])"
    ++ Abi.behindOffset (Abi.dynamicList (datas.map (item target)))

/-- The result of one call. -/
structure Result where
  success : Bool
  data : Bytes
  deriving DecidableEq

private def Result.encode (result : Result) : Bytes :=
  Abi.bool result.success ++ Abi.word (2 * Abi.wordSize) ++ Abi.bytes result.data

/-- The written form of some results. -/
def encodeResults (results : List Result) : Bytes :=
  Abi.behindOffset (Abi.dynamicList (results.map Result.encode))

/-- The word at a position. -/
private def wordAt? (content : Bytes) (position : Nat) : Option Nat := do
  return (← Bytes.split? Abi.wordSize (content.drop position)).1.toNat

/-- A result that begins at a position, if what stands there looks like one. -/
private def resultAt? (content : Bytes) (position : Nat) : Option Result := do
  let success ← wordAt? content position
  let length ← wordAt? content (position + 2 * Abi.wordSize)
  let (data, _) ← Bytes.split? length (content.drop (position + 3 * Abi.wordSize))
  return ⟨success ≠ 0, data⟩

/-- The results in their written form. They are looked for where their offsets point, and nothing
else may be there. -/
def results? (answer : Bytes) : Option (List Result) := do
  let count ← wordAt? answer Abi.wordSize
  let start := 2 * Abi.wordSize
  if answer.length < start + count * Abi.wordSize then none
  let results ← (List.range count).mapM fun index => do
    resultAt? answer (start + (← wordAt? answer (start + index * Abi.wordSize)))
  if encodeResults results = answer then return results else none

end Multicall

end PriceRelay
