import Mathlib.Data.List.Forall2
import PriceRelay.Proofs.Activity.Uses
import PriceRelay.Proofs.Chain.Errands
import PriceRelay.Proofs.Chain.Inclusion
import PriceRelay.Rehearsal.Stage
/-!
The nonces of a sender over whole runs, as its node sees them. A transaction carries the last count
that was read and one for each transaction sent since, taken or not. The nonces of the transactions
that are taken follow each other if every count is read, and counts all that was taken before.
-/

namespace PriceRelay

namespace Node

/-- What a node is asked, with its answers. -/
abbrev Record := List (Exchange world)

def sent? : Exchange world → Option (Bytes × Except Failure Hash)
  | ⟨.rpc _ (.send raw), reply⟩ => some (raw, reply.answer)
  | _ => none

def taken? (exchange : Exchange world) : Option Bytes :=
  match sent? exchange with
  | some (raw, .ok _) => some raw
  | _ => none

def taken (record : Record) : List Bytes := record.filterMap taken?

/-- The answer to a question for the count. -/
def count? : Exchange world → Option (Except Failure Nat)
  | ⟨.rpc _ (.transactionCount _), reply⟩ => some reply.answer
  | _ => none

/-- The nonce at hand after an exchange: one more after a transaction, and the count if it is
read. -/
def advance (nonce : UInt64) (exchange : Exchange world) : UInt64 :=
  match sent? exchange, count? exchange with
  | some _, _ => nonce + 1
  | none, some (.ok count) => UInt64.ofNat count
  | none, _ => nonce

def atHand (nonce : UInt64) (record : Record) : UInt64 := record.foldl advance nonce

/-- Every exchange is as it should be at its point of the record. -/
def Along {State : Type} (step : State → Exchange world → State)
    (fits : State → Exchange world → Prop) : State → Record → Prop
  | _, [] => True
  | state, exchange :: rest => fits state exchange ∧ Along step fits (step state exchange) rest

def Carries (key : Nat) (raw : Bytes) (nonce : Nat) : Prop :=
  ∃ draft : Draft, raw = draft.sign key ∧ draft.nonce = nonce

/-- Every transaction that is sent carries the nonce at hand. -/
def CarryAtHand (key : Nat) : UInt64 → Record → Prop :=
  Along advance fun nonce exchange =>
    ∀ raw answer, sent? exchange = some (raw, answer) → Carries key raw nonce.toNat

/-- Every answer about the count agrees with it; the count goes on by one for each transaction that
is taken. -/
def Counts (agrees : Nat → Except Failure Nat → Prop) : Nat → Record → Prop :=
  Along (fun count exchange => count + (taken? exchange).toList.length)
    fun count exchange => ∀ answer ∈ count? exchange, agrees count answer

/-- Every count is read, and counts all that was taken. -/
def CountsAll : Nat → Record → Prop := Counts fun count answer => answer = .ok count

/-- No count that is read is below the first one or beyond all that was taken. -/
def CountsUpTo (first : Nat) : Record → Prop :=
  Counts (fun count answer => ∀ read ∈ answer.toOption, first ≤ read ∧ read ≤ count) first

instance {State : Type} (step : State → Exchange world → State)
    (fits : State → Exchange world → Prop) [∀ state exchange, Decidable (fits state exchange)] :
    (state : State) → (record : Record) → Decidable (Along step fits state record)
  | _, [] => .isTrue trivial
  | state, exchange :: rest =>
    have : Decidable (Along step fits (step state exchange) rest) := instDecidableAlong ..
    inferInstanceAs (Decidable (_ ∧ _))

instance (agrees : Nat → Except Failure Nat → Prop)
    [∀ count answer, Decidable (agrees count answer)] (count : Nat) (record : Record) :
    Decidable (Counts agrees count record) :=
  inferInstanceAs (Decidable (Along _ _ count record))

instance (count : Nat) (record : Record) : Decidable (CountsAll count record) :=
  inferInstanceAs (Decidable (Counts _ count record))

instance (first : Nat) (record : Record) : Decidable (CountsUpTo first record) :=
  inferInstanceAs (Decidable (Counts _ first record))

section

variable {State : Type} {step : State → Exchange world → State}
  {fits : State → Exchange world → Prop} {state : State} {record before after : Record}

theorem along_append :
    Along step fits state (before ++ after) ↔
      Along step fits state before ∧ Along step fits (before.foldl step state) after := by
  induction before generalizing state with
  | nil => simp [Along]
  | cons exchange rest ih => rw [List.cons_append, Along, Along, ih, List.foldl_cons, and_assoc]

theorem taken_append : taken (before ++ after) = taken before ++ taken after :=
  List.filterMap_append

theorem taken_cons {exchange : Exchange world} :
    taken (exchange :: record) = (taken? exchange).toList ++ taken record := by
  unfold taken
  rw [List.filterMap_cons]
  cases taken? exchange <;> rfl

theorem atHand_append {nonce : UInt64} :
    atHand nonce (before ++ after) = atHand (atHand nonce before) after :=
  List.foldl_append

theorem carryAtHand_append {key : Nat} {nonce : UInt64} :
    CarryAtHand key nonce (before ++ after) ↔
      CarryAtHand key nonce before ∧ CarryAtHand key (atHand nonce before) after :=
  along_append

theorem counts_append {agrees : Nat → Except Failure Nat → Prop} {count : Nat} :
    Counts agrees count (before ++ after) ↔
      Counts agrees count before ∧ Counts agrees (count + (taken before).length) after := by
  have reached : before.foldl (fun count exchange => count + (taken? exchange).toList.length) count
      = count + (taken before).length := by
    induction before generalizing count with
    | nil => rfl
    | cons exchange rest ih => rw [List.foldl_cons, ih, taken_cons, List.length_append, Nat.add_assoc]
  rw [Counts, along_append, reached]

theorem atHand_sent {exchange : Exchange world} {raw : Bytes} {answer : Except Failure Hash}
    {nonce : UInt64} (sent : sent? exchange = some (raw, answer)) :
    atHand nonce [exchange] = nonce + 1 := by
  simp [atHand, advance, sent]

theorem carryAtHand_sent {exchange : Exchange world} {key : Nat} {raw : Bytes}
    {answer : Except Failure Hash} {nonce : UInt64} (sent : sent? exchange = some (raw, answer))
    (carries : Carries key raw nonce.toNat) : CarryAtHand key nonce [exchange] := by
  refine ⟨fun other reply found => ?_, trivial⟩
  rw [sent] at found
  cases found
  exact carries

theorem taken_sent {exchange : Exchange world} {raw : Bytes} {answer : Except Failure Hash}
    (sent : sent? exchange = some (raw, answer)) :
    taken [exchange] = match answer with
      | .ok _ => [raw]
      | .error _ => [] := by
  cases answer <;> simp [taken, taken?, sent]

end

/-- Neither a transaction nor the count is asked about. -/
def Quiet (question : world.Ask) : Prop :=
  ∀ reply, sent? ⟨question, reply⟩ = none ∧ count? ⟨question, reply⟩ = none

section

variable {record : Record}

theorem quiet_record (quiet : ∀ exchange ∈ record, Quiet exchange.question) (nonce : UInt64)
    (key : Nat) : taken record = [] ∧ atHand nonce record = nonce ∧ CarryAtHand key nonce record := by
  induction record with
  | nil => exact ⟨rfl, rfl, trivial⟩
  | cons exchange rest ih =>
    obtain ⟨unsent, uncounted⟩ := quiet exchange List.mem_cons_self exchange.reply
    obtain ⟨nothing, same, carries⟩ := ih fun other member => quiet other (List.mem_cons_of_mem _ member)
    have stays : advance nonce exchange = nonce := by simp only [advance, unsent, uncounted]
    refine ⟨?_, ?_, ?_, ?_⟩
    · rw [taken_cons, nothing, taken?, unsent]
      rfl
    · rw [atHand, List.foldl_cons, stays]
      exact same
    · intro raw answer sent
      rw [unsent] at sent
      cases sent
    · rw [stays]
      exact carries

end

end Node

open Node

namespace Task

theorem ends_rpc {provider : Nat} {call : RpcCall} {trace : Record} {elapsed : Millis}
    {answer : Except Failure call.Answer} (ends : (Task.rpc provider call).Ends trace elapsed answer) :
    ∃ reply : Timed call.Answer, trace = [⟨.rpc provider call, reply⟩] ∧ answer = reply.answer := by
  obtain ⟨reply, rest, rfl, settled⟩ := Activity.ends_ask_iff.mp ends
  obtain ⟨rfl, rfl⟩ := Task.ends_settle settled
  exact ⟨reply, rfl, rfl⟩

end Task

namespace GasStrategy

/-- A strategy asks for prices and for nothing else. -/
theorem fetch_quiet (provider : Nat) (strategy : GasStrategy) :
    (strategy.fetch (Rpc.node provider)).Uses Quiet := by
  cases strategy with
  | legacy gas => exact (Task.uses_rpc fun _ => ⟨rfl, rfl⟩).bind fun _ => trivial
  | eip1559 gas =>
    have base : (Task.rpc provider .baseFee).Uses Quiet := Task.uses_rpc fun _ => ⟨rfl, rfl⟩
    have priority : (Task.rpc provider .priorityFee).Uses Quiet := Task.uses_rpc fun _ => ⟨rfl, rfl⟩
    exact (base.both priority).bind fun _ => trivial

end GasStrategy

namespace Sender

variable {provider : Nat} {sender sender' priced : Sender} {record : Record} {elapsed : Millis}

theorem fees_quiet {fees : Fees}
    (ends : (sender.fees (Rpc.node provider)).Ends record elapsed (fees, priced)) (nonce : UInt64)
    (key : Nat) :
    priced.key = sender.key ∧ priced.nonce = sender.nonce ∧
      taken record = [] ∧ atHand nonce record = nonce ∧ CarryAtHand key nonce record := by
  obtain ⟨base, strategy, fetched, -, rfl⟩ := fees_ends ends
  have quiet : ∀ exchange ∈ record, Quiet exchange.question := fun exchange member =>
    (GasStrategy.fetch_quiet provider sender.strategy).asked fetched member
  exact ⟨rfl, rfl, quiet_record quiet nonce key⟩

theorem draft_carries (key nonce : Nat) (fees : Fees) (call : UpdateCall) :
    Carries key ((sender.draft nonce fees call).sign key) nonce :=
  ⟨_, rfl, rfl⟩

/-- A transaction that is sent is in the record with its answer. -/
theorem send_record {raw : Bytes} {answer : Except Failure Hash}
    (ends : ((Rpc.node provider).request (.send raw)).Ends record elapsed answer) :
    ∃ exchange, record = [exchange] ∧ sent? exchange = some (raw, answer) := by
  obtain ⟨reply, rfl, rfl⟩ := Task.ends_rpc ends
  exact ⟨_, rfl, rfl⟩

/-- Reading the count takes nothing. The nonce is the count that was read, if one was. -/
theorem sync_record (ends : (sender.sync (Rpc.node provider)).Ends record elapsed sender') :
    sender'.key = sender.key ∧ sender'.nonce.current = atHand sender.nonce.current record ∧
      taken record = [] ∧ (∀ key nonce, CarryAtHand key nonce record) ∧
      ∀ count, CountsAll count record → sender'.nonce.current = UInt64.ofNat count := by
  obtain ⟨answer, asked, rfl⟩ := sync_ends ends
  obtain ⟨reply, rfl, rfl⟩ := Task.ends_rpc asked
  have carries : ∀ key nonce, CarryAtHand key nonce
      [⟨.rpc provider (.transactionCount sender.address), reply⟩] := by
    intro key nonce
    refine ⟨?_, trivial⟩
    rintro raw answer ⟨⟩
  cases answered : reply.answer with
  | ok count =>
    refine ⟨rfl, ?_, rfl, carries, ?_⟩
    · simp [atHand, advance, sent?, count?, answered]
    · intro expected counts
      have same := counts.1 reply.answer rfl
      rw [answered] at same
      cases same
      rfl
  | error failure =>
    refine ⟨rfl, ?_, rfl, carries, ?_⟩
    · simp [atHand, advance, sent?, count?, answered]
    · intro expected counts
      have same := counts.1 reply.answer rfl
      rw [answered] at same
      cases same

/-- The nonces of the transactions that were taken, as the sender tells them. -/
def reported (results : List ErrandResult) : List Nat :=
  (results.filterMap ErrandResult.dispatched?).map (·.nonce)

/-- An errand leaves the key. What it sends carries the nonce at hand, which is also what it
tells. -/
theorem Performed.carries {result : ErrandResult}
    (performed : Performed (Rpc.node provider) sender record result sender') :
    sender'.key = sender.key ∧ sender'.nonce.current = atHand sender.nonce.current record ∧
      CarryAtHand sender.key sender.nonce.current record ∧
      List.Forall₂ (Carries sender.key) (taken record) (reported [result]) := by
  cases performed with
  | submitted submission =>
    cases submission with
    | taken prices sends =>
      obtain ⟨key, nonce, nothing, quiet, carries⟩ :=
        fees_quiet prices sender.nonce.current sender.key
      obtain ⟨exchange, rfl, sent⟩ := send_record sends
      rw [key] at sent
      refine ⟨key, ?_, carryAtHand_append.mpr ⟨carries, ?_⟩, ?_⟩
      · rw [atHand_append, quiet, atHand_sent sent, nonce, advanced]
      · rw [quiet]
        exact carryAtHand_sent sent (draft_carries ..)
      · rw [taken_append, nothing, taken_sent sent]
        exact .cons (draft_carries ..) .nil
    | refused prices sends counts =>
      obtain ⟨key, nonce, nothing, quiet, carries⟩ :=
        fees_quiet prices sender.nonce.current sender.key
      obtain ⟨exchange, rfl, sent⟩ := send_record sends
      rw [key] at sent
      obtain ⟨same, current, unchanged, counting, -⟩ := sync_record counts
      refine ⟨same.trans key, ?_, carryAtHand_append.mpr ⟨carries, carryAtHand_append.mpr
        ⟨?_, counting _ _⟩⟩, ?_⟩
      · rw [current, atHand_append, atHand_append, quiet, atHand_sent sent, nonce, advanced]
      · rw [quiet]
        exact carryAtHand_sent sent (draft_carries ..)
      · rw [taken_append, taken_append, nothing, taken_sent sent, unchanged]
        exact .nil
  | priced prices =>
    obtain ⟨key, nonce, nothing, quiet, carries⟩ :=
      fees_quiet prices sender.nonce.current sender.key
    exact ⟨key, by rw [nonce, quiet], carries, by rw [nothing]; exact .nil⟩
  | synced counts =>
    obtain ⟨key, current, nothing, carries, -⟩ := sync_record counts
    exact ⟨key, current, carries _ _, by rw [nothing]; exact .nil⟩

/-- If the nonce at hand is the count, and so is every count that is read, the transaction that is
taken carries it, and the nonce at hand afterwards is the count again. -/
theorem Performed.counts {result : ErrandResult} {count : Nat}
    (performed : Performed (Rpc.node provider) sender record result sender')
    (current : sender.nonce.current = UInt64.ofNat count) (counts : CountsAll count record)
    (room : count + (taken record).length ≤ 2 ^ 64) :
    sender'.nonce.current = UInt64.ofNat (count + (taken record).length) ∧
      reported [result] = List.range' count (taken record).length := by
  cases performed with
  | submitted submission =>
    cases submission with
    | taken prices sends =>
      obtain ⟨key, nonce, nothing, -, -⟩ := fees_quiet prices sender.nonce.current sender.key
      obtain ⟨exchange, rfl, sent⟩ := send_record sends
      have one : taken [exchange] = [_] := taken_sent sent
      rw [taken_append, nothing, one] at room ⊢
      have carried : sender.nonce.current.toNat = count := by
        rw [current, UInt64.toNat_ofNat_of_lt' room]
      refine ⟨?_, ?_⟩
      · rw [nonce, advanced, current]
        exact (UInt64.ofNat_add count 1).symm
      · simp [reported, ErrandResult.dispatched?, carried]
    | refused prices sends counting =>
      obtain ⟨key, nonce, nothing, -, -⟩ := fees_quiet prices sender.nonce.current sender.key
      obtain ⟨exchange, rfl, sent⟩ := send_record sends
      obtain ⟨-, -, unchanged, -, follows⟩ := sync_record counting
      have refused : taken [exchange] = [] := taken_sent sent
      obtain ⟨-, later⟩ := counts_append.mp counts
      obtain ⟨-, last⟩ := counts_append.mp later
      rw [nothing, refused] at last
      rw [taken_append, taken_append, nothing, refused, unchanged]
      exact ⟨follows count last, rfl⟩
  | priced prices =>
    obtain ⟨key, nonce, nothing, -, -⟩ := fees_quiet prices sender.nonce.current sender.key
    rw [nothing]
    exact ⟨by rw [nonce, current]; rfl, rfl⟩
  | synced counting =>
    obtain ⟨-, -, nothing, -, follows⟩ := sync_record counting
    rw [nothing]
    exact ⟨follows count counts, rfl⟩

section

variable {errands : List Errand} {results : List ErrandResult}

theorem reported_cons {result : ErrandResult} :
    reported (result :: results) = reported [result] ++ reported results := by
  unfold reported
  rw [← List.map_append, ← List.filterMap_append]
  rfl

/-- Over a run as well, what is sent carries the nonce at hand, and tells the truth. -/
theorem performAll_carries
    (ends : (performAll (Rpc.node provider) errands sender).Ends record elapsed
      (results, sender')) :
    CarryAtHand sender.key sender.nonce.current record ∧
      List.Forall₂ (Carries sender.key) (taken record) (reported results) := by
  induction errands generalizing sender record elapsed results with
  | nil =>
    obtain ⟨rfl, -, same⟩ := Activity.ends_done_iff.mp ends
    cases same
    exact ⟨trivial, .nil⟩
  | cons errand rest ih =>
    obtain ⟨before, after, late, result, others, between, rfl, rfl, performed, onward⟩ :=
      performAll_cons_ends ends
    obtain ⟨key, current, carries, tells⟩ := performed.carries
    obtain ⟨carriesOn, tellsOn⟩ := ih onward
    rw [key] at carriesOn tellsOn
    rw [current] at carriesOn
    rw [taken_append, reported_cons]
    exact ⟨carryAtHand_append.mpr ⟨carries, carriesOn⟩, List.rel_append tells tellsOn⟩

theorem performAll_counts {count : Nat}
    (ends : (performAll (Rpc.node provider) errands sender).Ends record elapsed
      (results, sender'))
    (current : sender.nonce.current = UInt64.ofNat count) (counts : CountsAll count record)
    (room : count + (taken record).length ≤ 2 ^ 64) :
    reported results = List.range' count (taken record).length := by
  induction errands generalizing sender record elapsed results count with
  | nil =>
    obtain ⟨rfl, -, same⟩ := Activity.ends_done_iff.mp ends
    cases same
    rfl
  | cons errand rest ih =>
    obtain ⟨before, after, late, result, others, between, rfl, rfl, performed, onward⟩ :=
      performAll_cons_ends ends
    obtain ⟨early, later⟩ := counts_append.mp counts
    rw [taken_append, List.length_append] at room ⊢
    obtain ⟨currentOn, tells⟩ := performed.counts current early (by omega)
    have tellsOn := ih onward currentOn later (by omega)
    rw [reported_cons, tells, tellsOn, List.range'_append_1]

/-- The law of nonces, for every run: what is sent carries the nonce at hand, and what is taken
carries the nonce that is told. Where every count is read and counts all that was taken, the nonces
that are taken go on from the first one without a gap. -/
theorem performAll_nonces {outcome : List ErrandResult × Sender}
    (ends : (performAll (Rpc.node provider) errands sender).Ends record elapsed outcome) :
    CarryAtHand sender.key sender.nonce.current record ∧
      List.Forall₂ (Carries sender.key) (taken record) (reported outcome.1) ∧
      (CountsAll sender.nonce.current.toNat record →
        sender.nonce.current.toNat + (taken record).length ≤ 2 ^ 64 →
        reported outcome.1 = List.range' sender.nonce.current.toNat (taken record).length) := by
  obtain ⟨results, final⟩ := outcome
  obtain ⟨carries, tells⟩ := performAll_carries ends
  have current : sender.nonce.current = UInt64.ofNat sender.nonce.current.toNat :=
    (UInt64.ofNat_toNat).symm
  exact ⟨carries, tells, performAll_counts ends current⟩

def atFive : Sender := ⟨1, 1, defaultGasLimit, 1.0, defaultStrategy, ⟨5⟩⟩

def threeSubmissions : Task (List ErrandResult × Sender) :=
  let target := atFive.address
  let call : UpdateCall := { sender := target, target, data := [], feeds := [] }
  performAll (Rpc.node 0) ([call, call, call].map .submit) atFive

/-- A node that takes the first and the third transaction, and counts as it is told. -/
def refusingSecond (counts : List (Timed NodeLine)) : Stage :=
  let hash : Timed NodeLine := Timed.now (.bytes (List.replicate 32 0))
  { nodes := [{ script :=
      [("send", [hash, ⟨0, .error .transport⟩, hash]), ("transaction_count", counts)] }] }

/-- The second transaction is refused, and then the count is read: the third one takes its place. -/
theorem performAll_nonces_refusedOnce :
    CountsAll 5 (threeSubmissions.history Stage.host (refusingSecond [Timed.now (.number 6)])) ∧
      reported (threeSubmissions.run Stage.host (refusingSecond [Timed.now (.number 6)])).result.1 =
        [5, 6] := by
  have first : atFive.nonce.current.toNat = 5 := by decide
  have counts : CountsAll 5
      (threeSubmissions.history Stage.host (refusingSecond [Timed.now (.number 6)])) := by
    decide +kernel
  have two : (taken (threeSubmissions.history Stage.host
      (refusingSecond [Timed.now (.number 6)]))).length = 2 := by
    decide +kernel
  have ends := threeSubmissions.run_ends Stage.host (refusingSecond [Timed.now (.number 6)])
  obtain ⟨-, -, law⟩ := performAll_nonces ends
  rw [first, two] at law
  exact ⟨counts, law counts (by decide)⟩

/-- Without an answer about the count the nonce of the refused transaction is skipped: the
transactions that are taken carry five and seven. -/
theorem performAll_skips_nonce :
    ¬ ∀ (provider : Nat) (sender : Sender) (calls : List UpdateCall) (record : Record)
      (elapsed : Millis) (outcome : List ErrandResult × Sender),
      (performAll (Rpc.node provider) (calls.map .submit) sender).Ends record elapsed outcome →
      CountsUpTo sender.nonce.current.toNat record →
      sender.nonce.current.toNat + record.length < 2 ^ 64 →
      reported outcome.1 = List.range' sender.nonce.current.toNat (taken record).length := by
  intro follow
  let stage := refusingSecond [⟨0, .error .transport⟩]
  have first : atFive.nonce.current.toNat = 5 := by decide
  have counts : CountsUpTo 5 (threeSubmissions.history Stage.host stage) := by decide +kernel
  have short : 5 + (threeSubmissions.history Stage.host stage).length < 2 ^ 64 := by
    decide +kernel
  have gap : reported (threeSubmissions.run Stage.host stage).result.1 = [5, 7] := by
    decide +kernel
  have two : (taken (threeSubmissions.history Stage.host stage)).length = 2 := by
    decide +kernel
  have listed := follow _ _ _ _ _ _ (threeSubmissions.run_ends Stage.host stage)
  rw [first, two, gap] at listed
  exact absurd (listed counts short) (by decide)

end

end Sender

end PriceRelay
