import Mathlib.Data.List.Basic
import PriceRelay.Chain.Gas
import PriceRelay.Proofs.Activity.History
import PriceRelay.Rehearsal.Stage
/-!
Prices over a run of questions. A strategy goes by the latest price that a node told, and before any
by the one it was made with. What it keeps for later has 64 bits: of a larger price only the rest
modulo 2^64 is left.
-/

namespace PriceRelay

/-- Activities end one after another, each in its part of a trace. -/
inductive Activity.EndInTurn {I : Interface} {α : Type} :
    List (Activity I α) → List (Exchange I) → List α → Prop where
  | nil : EndInTurn [] [] []
  | cons {activity : Activity I α} {rest : List (Activity I α)} {part trace : List (Exchange I)}
      {elapsed : Millis} {result : α} {results : List α} (ends : activity.Ends part elapsed result)
      (later : EndInTurn rest trace results) :
      EndInTurn (activity :: rest) (part ++ trace) (result :: results)

/-- What was told last, by the answers that tell something. -/
def lastTold {Answer α : Type} (told : Answer → Option α) (answers : List Answer) : Option α :=
  (answers.filterMap told).getLast?

theorem lastTold_concat {Answer α : Type} (told : Answer → Option α) (answers : List Answer)
    (answer : Answer) :
    lastTold told (answers ++ [answer]) = (told answer).or (lastTold told answers) := by
  unfold lastTold
  rw [List.filterMap_append, List.getLast?_append]
  cases tells : told answer <;> simp [tells]

namespace LegacyGas

/-- The price after some answers: the last that was told, or the default, cut at the cap. -/
def due (default cap : Nat) (answers : List (Except Failure Nat)) : Nat :=
  min ((lastTold Except.toOption answers).getD default) cap

def keeping (default cap : Nat) (answers : List (Except Failure Nat)) : LegacyGas :=
  ⟨cap, due default cap answers % keptBound⟩

theorem fees_keeping (default cap : Nat) (before : List (Except Failure Nat))
    (answer : Except Failure Nat) :
    (keeping default cap before).fees answer =
      (.legacy (due default cap (before ++ [answer]) % keptBound),
        keeping default cap (before ++ [answer])) := by
  unfold keeping due
  rw [lastTold_concat]
  cases answer <;> rfl

end LegacyGas

namespace FeeGas

/-- A node's answers to the questions for base fee and priority fee. -/
abbrev Answers := Except Failure (Option Nat) × Except Failure Nat

def told? (answers : Answers) : Option Nat := answers.1.toOption.join

/-- The base fee that was told last, or the initial one. -/
def latestBase (answers : List Answers) : Nat := (lastTold told? answers).getD initialBase

/-- The base fee that is on hand after some answers: the last, or what was kept of those before. -/
def baseOnHand (before : List Answers) (answers : Answers) : Nat :=
  (told? answers).getD (latestBase before % keptBound)

def offer (gas : FeeGas) (base : Nat) (answers : Answers) : Fees :=
  let priority := answers.2.toOption.getD gas.defaultPriority
  .eip1559 (gas.maxFee base priority) priority base

theorem offer_inj {gas : FeeGas} {base other : Nat} {answers : Answers} :
    gas.offer base answers = gas.offer other answers ↔ base = other := by
  constructor
  · intro same
    exact (Fees.eip1559.inj same).2.2
  · rintro rfl
    rfl

/-- The strategy after some answers. What it keeps of a priority fee is not used again. -/
def Keeping (start : FeeGas) (answers : List Answers) (gas : FeeGas) : Prop :=
  ∃ priority, gas =
    { start with keptBase := latestBase answers % keptBound, keptPriority := priority }

theorem latestBase_concat (before : List Answers) (answers : Answers) :
    latestBase (before ++ [answers]) = (told? answers).getD (latestBase before) := by
  unfold latestBase
  rw [lastTold_concat]
  cases told? answers <;> rfl

/-- On hand is the latest base fee, unless it was told earlier and was too large to be kept. -/
theorem baseOnHand_eq_iff (before : List Answers) (answers : Answers) :
    baseOnHand before answers = latestBase (before ++ [answers]) ↔
      (told? answers).isSome ∨ latestBase before < keptBound := by
  rw [latestBase_concat, baseOnHand]
  cases told? answers with
  | none => simp [keptBound]
  | some fee => simp

theorem Keeping.fees {start gas : FeeGas} {before : List Answers}
    (keeping : start.Keeping before gas) (answers : Answers) :
    (gas.fees answers.1 answers.2).1 = start.offer (baseOnHand before answers) answers ∧
      Keeping start (before ++ [answers]) (gas.fees answers.1 answers.2).2 := by
  obtain ⟨priority, rfl⟩ := keeping
  have kept : latestBase (before ++ [answers]) % keptBound =
      baseOnHand before answers % keptBound := by
    rw [latestBase_concat, baseOnHand]
    cases told? answers <;> simp
  unfold Keeping
  rw [kept]
  obtain ⟨base, suggested⟩ := answers
  rcases base with failure | (none | fee) <;> cases suggested <;> exact ⟨rfl, _, rfl⟩

end FeeGas

namespace GasStrategy

open Activity

def fetchAll : List Rpc → GasStrategy → Task (List Fees × GasStrategy)
  | [], strategy => .done ([], strategy)
  | rpc :: rest, strategy =>
    (strategy.fetch rpc).bind fun (fees, strategy) =>
    (fetchAll rest strategy).bind fun (more, strategy) => .done (fees :: more, strategy)

section

variable {nodes : List Rpc} {strategy next : GasStrategy} {trace : List (Exchange world)}
  {elapsed : Millis} {offers : List Fees}

/-- What holds of one question, given the answers before it, holds along a run. -/
theorem fetchAll_inTurn {Answer : Type} {ask : Rpc → Task Answer}
    {Keeps : List Answer → GasStrategy → Prop} {offer : List Answer → Answer → Fees}
    (step : ∀ before strategy rpc part elapsed fees next, Keeps before strategy →
      (fetch rpc strategy).Ends part elapsed (fees, next) →
      ∃ answer, (ask rpc).Ends part elapsed answer ∧ fees = offer before answer ∧
        Keeps (before ++ [answer]) next)
    {past : List Answer} (keeps : Keeps past strategy)
    (ends : (fetchAll nodes strategy).Ends trace elapsed (offers, next)) :
    ∃ answers, EndInTurn (nodes.map ask) trace answers ∧ offers.length = answers.length ∧
      ∀ before answer after, answers = before ++ answer :: after →
        offers[before.length]? = some (offer (past ++ before) answer) := by
  induction nodes generalizing strategy trace elapsed offers past with
  | nil =>
    obtain ⟨rfl, -, same⟩ := ends_done_iff.mp ends
    cases same
    refine ⟨[], .nil, rfl, ?_⟩
    intro before answer after split
    cases before <;> cases split
  | cons rpc rest ih =>
    obtain ⟨part, later, early, late, ⟨fees, between⟩, rfl, rfl, fetched, onward⟩ :=
      ends_bind_iff.mp ends
    obtain ⟨⟨more, final⟩, rested, same⟩ := ends_bind_done onward
    cases same
    obtain ⟨answer, asked, rfl, kept⟩ := step _ _ _ _ _ _ _ keeps fetched
    obtain ⟨answers, told, length, along⟩ := ih kept rested
    refine ⟨answer :: answers, .cons asked told, congrArg (· + 1) length, ?_⟩
    intro before other after split
    cases before with
    | nil =>
      obtain ⟨rfl, -⟩ := List.cons.inj split
      simp
    | cons first before =>
      obtain ⟨rfl, shorter⟩ := List.cons.inj split
      simpa using along before other after shorter

end

theorem fetch_keeping (default cap : Nat) (before : List (Except Failure Nat))
    (strategy : GasStrategy) (rpc : Rpc) (trace : List (Exchange world)) (elapsed : Millis)
    (fees : Fees) (next : GasStrategy) (keeps : strategy = .legacy (.keeping default cap before))
    (ends : (fetch rpc strategy).Ends trace elapsed (fees, next)) :
    ∃ answer : Except Failure Nat, (rpc.request .gasPrice).Ends trace elapsed answer ∧
      fees = .legacy (LegacyGas.due default cap (before ++ [answer]) % keptBound) ∧
      next = .legacy (.keeping default cap (before ++ [answer])) := by
  obtain rfl := keeps
  obtain ⟨answer, asked, same⟩ := ends_bind_done ends
  have given := LegacyGas.fees_keeping default cap before answer
  obtain ⟨rfl, rfl⟩ := Prod.mk.inj same
  exact ⟨answer, asked, congrArg Prod.fst given, congrArg (GasStrategy.legacy ∘ Prod.snd) given⟩

theorem fetch_keepingBase (start : FeeGas) (before : List FeeGas.Answers) (strategy : GasStrategy)
    (rpc : Rpc) (trace : List (Exchange world)) (elapsed : Millis) (fees : Fees)
    (next : GasStrategy) (keeps : ∃ gas, strategy = .eip1559 gas ∧ start.Keeping before gas)
    (ends : (fetch rpc strategy).Ends trace elapsed (fees, next)) :
    ∃ answers : FeeGas.Answers,
      (both (rpc.request .baseFee) (rpc.request .priorityFee)).Ends trace elapsed answers ∧
      fees = start.offer (FeeGas.baseOnHand before answers) answers ∧
      ∃ gas, next = .eip1559 gas ∧ start.Keeping (before ++ [answers]) gas := by
  obtain ⟨gas, rfl, keeping⟩ := keeps
  obtain ⟨answers, asked, same⟩ := ends_bind_done ends
  obtain ⟨offered, kept⟩ := keeping.fees answers
  obtain ⟨rfl, rfl⟩ := Prod.mk.inj same
  exact ⟨answers, asked, offered, _, rfl, kept⟩

/-- The law of prices over a run, for every default and cap, and whatever the nodes answer. A legacy
offer is the latest price that was told, or the default, cut at the cap and then to 64 bits: it is
that price exactly where it has 64 bits. A base fee is the one just told, or else what 64 bits leave
of the one told last, and the priority fee is the node's or the default one. -/
theorem fetchAll_latest (nodes : List Rpc) (trace : List (Exchange world)) (elapsed : Millis)
    (offers : List Fees) (next : GasStrategy) :
    (∀ default cap,
      (fetchAll nodes (.legacy (LegacyGas.new default cap))).Ends trace elapsed (offers, next) →
      ∃ answers : List (Except Failure Nat),
        EndInTurn (nodes.map fun rpc => rpc.request .gasPrice) trace answers ∧
        offers.length = answers.length ∧
        ∀ before answer after, answers = before ++ answer :: after →
          let price := LegacyGas.due default cap (before ++ [answer])
          offers[before.length]? = some (.legacy (price % keptBound)) ∧
          (offers[before.length]? = some (.legacy price) ↔ price < keptBound)) ∧
    (∀ priority multiplier cap,
      (fetchAll nodes (.eip1559 (FeeGas.new priority multiplier cap))).Ends trace elapsed
        (offers, next) →
      ∃ answers : List FeeGas.Answers,
        EndInTurn (nodes.map fun rpc => both (rpc.request .baseFee) (rpc.request .priorityFee))
          trace answers ∧
        offers.length = answers.length ∧
        ∀ before answer after, answers = before ++ answer :: after →
          let offer (base : Nat) := (FeeGas.new priority multiplier cap).offer base answer
          offers[before.length]? = some (offer (FeeGas.baseOnHand before answer)) ∧
          (offers[before.length]? = some (offer (FeeGas.latestBase (before ++ [answer]))) ↔
            (FeeGas.told? answer).isSome ∨ FeeGas.latestBase before < keptBound)) := by
  constructor
  · intro default cap ends
    have start : legacy (LegacyGas.new default cap) = .legacy (.keeping default cap []) := rfl
    obtain ⟨answers, told, length, along⟩ := fetchAll_inTurn (fetch_keeping default cap) start ends
    refine ⟨answers, told, length, ?_⟩
    intro before answer after split price
    have given : offers[before.length]? = some (.legacy (price % keptBound)) :=
      along before answer after split
    refine ⟨given, ?_⟩
    rw [given]
    simp [keptBound]
  · intro priority multiplier cap ends
    let start := FeeGas.new priority multiplier cap
    have initial : ∃ gas, eip1559 start = .eip1559 gas ∧ start.Keeping [] gas := ⟨_, rfl, _, rfl⟩
    obtain ⟨answers, told, length, along⟩ := fetchAll_inTurn (fetch_keepingBase start) initial ends
    refine ⟨answers, told, length, ?_⟩
    intro before answer after split offer
    have given : offers[before.length]? = some (offer (FeeGas.baseOnHand before answer)) :=
      along before answer after split
    refine ⟨given, ?_⟩
    rw [given, Option.some_inj]
    exact FeeGas.offer_inj.trans (FeeGas.baseOnHand_eq_iff before answer)

def toldOnce : Stage :=
  { nodes := [{ script :=
      [("gas_price", [Timed.now (.number 9000), ⟨0, .error .transport⟩]),
        ("base_fee", [Timed.now (.number 10000000000), ⟨0, .error .transport⟩]),
        ("priority_fee", [Timed.now (.number 1000000000), ⟨0, .error .transport⟩])] }] }

def offeredTwice (strategy : GasStrategy) : List Fees :=
  ((fetchAll [Rpc.node 0, Rpc.node 0] strategy).run Stage.host toldOnce).result.1

/-- The price of 9000, cut at the cap of 5000, is offered again when the node is silent; and so is
the base fee of 10 gwei, with the default priority fee. -/
theorem fetchAll_latest_toldOnce :
    (offeredTwice (.legacy (LegacyGas.new 1000 5000)) = [.legacy 5000, .legacy 5000] ∧
      ∃ first second, LegacyGas.due 1000 5000 [first] % keptBound = 5000 ∧
        LegacyGas.due 1000 5000 [first, second] % keptBound = 5000) ∧
    (offeredTwice (.eip1559 (FeeGas.new 2000000000 2.0 500000000000)) =
        [.eip1559 21000000000 1000000000 10000000000, .eip1559 22000000000 2000000000 10000000000] ∧
      ∃ first second, FeeGas.baseOnHand [] first = 10000000000 ∧
        FeeGas.baseOnHand [first] second = 10000000000) := by
  constructor
  · let strategy : GasStrategy := .legacy (LegacyGas.new 1000 5000)
    have offered : offeredTwice strategy = [.legacy 5000, .legacy 5000] := by decide +kernel
    refine ⟨offered, ?_⟩
    obtain ⟨answers, -, length, along⟩ := (fetchAll_latest _ _ _ _ _).1 1000 5000
      (run_ends Stage.host (fetchAll [Rpc.node 0, Rpc.node 0] strategy) toldOnce)
    change (offeredTwice strategy).length = _ at length
    rw [offered] at length
    obtain ⟨first, second, rfl⟩ := List.length_eq_two.mp length.symm
    have early := (along [] first [second] rfl).1
    have late := (along [first] second [] rfl).1
    change (offeredTwice strategy)[0]? = _ at early
    change (offeredTwice strategy)[1]? = _ at late
    rw [offered] at early late
    exact ⟨first, second, (Fees.legacy.inj (Option.some.inj early)).symm,
      (Fees.legacy.inj (Option.some.inj late)).symm⟩
  · let strategy : GasStrategy := .eip1559 (FeeGas.new 2000000000 2.0 500000000000)
    have offered : offeredTwice strategy = [.eip1559 21000000000 1000000000 10000000000,
        .eip1559 22000000000 2000000000 10000000000] := by decide +kernel
    refine ⟨offered, ?_⟩
    obtain ⟨answers, -, length, along⟩ :=
      (fetchAll_latest _ _ _ _ _).2 2000000000 2.0 500000000000
        (run_ends Stage.host (fetchAll [Rpc.node 0, Rpc.node 0] strategy) toldOnce)
    change (offeredTwice strategy).length = _ at length
    rw [offered] at length
    obtain ⟨first, second, rfl⟩ := List.length_eq_two.mp length.symm
    have early := (along [] first [second] rfl).1
    have late := (along [first] second [] rfl).1
    change (offeredTwice strategy)[0]? = _ at early
    change (offeredTwice strategy)[1]? = _ at late
    rw [offered] at early late
    exact ⟨first, second, (Fees.eip1559.inj (Option.some.inj early)).2.2.symm,
      (Fees.eip1559.inj (Option.some.inj late)).2.2.symm⟩

def hugePrice : Stage :=
  { nodes := [{ script := [("gas_price", [Timed.now (.number 18446744073709551616)])] }] }

/-- A price of 2^64 under a cap of 2^65 becomes nothing. -/
theorem fetchAll_loses_price :
    ¬∀ (nodes : List Rpc) (default cap : Nat) (trace : List (Exchange world)) (elapsed : Millis)
      (offers : List Fees) (next : GasStrategy) (answers : List (Except Failure Nat)),
      default ≤ maxWei → cap ≤ maxWei →
      (fetchAll nodes (.legacy (LegacyGas.new default cap))).Ends trace elapsed (offers, next) →
      EndInTurn (nodes.map fun rpc => rpc.request .gasPrice) trace answers →
      ∀ before answer after, answers = before ++ answer :: after →
        offers[before.length]? = some (.legacy (LegacyGas.due default cap (before ++ [answer]))) := by
  intro faithful
  let strategy : GasStrategy := .legacy (LegacyGas.new 1 36893488147419103232)
  let asked : Attempt Nat := (Rpc.node 0).request .gasPrice
  have told : EndInTurn [asked] (asked.history Stage.host hugePrice ++ [])
      [.ok 18446744073709551616] :=
    .cons (run_ends Stage.host asked hugePrice) .nil
  have offered := faithful [Rpc.node 0] 1 36893488147419103232 _ _ _ _ _ (by decide) (by decide)
    (run_ends Stage.host (fetchAll [Rpc.node 0] strategy) hugePrice) told [] _ [] rfl
  have lost : some (Fees.legacy 0) = some (.legacy 18446744073709551616) := offered
  exact absurd lost (by decide)

end GasStrategy

end PriceRelay
