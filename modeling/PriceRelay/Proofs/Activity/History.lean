import PriceRelay.Activity.Run
/-!
What happens in the course of an activity: the questions it asks, the replies it gets, and the time
that passes. A course does not depend on a world; every run in a world follows one.
-/

namespace PriceRelay

/-- A question and its reply. -/
structure Exchange (I : Interface) where
  question : I.Ask
  reply : I.Reply question

namespace Activity

variable {I J : Interface} {State α β : Type}

/-- What is asked and replied in a run. -/
def history (host : Host I State) : Activity I α → State → List (Exchange I)
  | .done _, _ => []
  | .ask question next, state =>
    let (reply, state) := host.answer question state
    ⟨question, reply⟩ :: (next reply).history host state
  | .sleep _ next, state => next.history host state

/-- Every exchange of a run has the world's answer. -/
theorem reply_of_mem_history {host : Host I State} {activity : Activity I α} {state : State}
    {exchange : Exchange I} (member : exchange ∈ activity.history host state) :
    ∃ before, exchange.reply = (host.answer exchange.question before).1 := by
  induction activity generalizing state with
  | done result => cases member
  | ask question next ih =>
    rcases List.mem_cons.mp member with rfl | later
    · exact ⟨state, rfl⟩
    · exact ih _ later
  | sleep duration next ih => exact ih member

/-- With the replies of a trace, an activity ends with a result after some time. -/
inductive Ends : Activity I α → List (Exchange I) → Millis → α → Prop where
  | done (result : α) : Ends (.done result) [] 0 result
  | ask {question : I.Ask} {next : I.Reply question → Activity I α} (reply : I.Reply question)
      {trace : List (Exchange I)} {elapsed : Millis} {result : α}
      (rest : Ends (next reply) trace elapsed result) :
      Ends (.ask question next) (⟨question, reply⟩ :: trace) elapsed result
  | sleep {next : Activity I α} (duration : Millis) {trace : List (Exchange I)}
      {elapsed : Millis} {result : α} (rest : Ends next trace elapsed result) :
      Ends (.sleep duration next) trace (duration + elapsed) result

theorem run_ends (host : Host I State) (activity : Activity I α) (state : State) :
    activity.Ends (activity.history host state) (activity.run host state).elapsed
      (activity.run host state).result := by
  induction activity generalizing state with
  | done result => exact .done result
  | ask question next ih => exact .ask _ (ih _ _)
  | sleep duration next ih =>
    have later := next.runFrom_eq host state (0 + duration)
    rw [Nat.zero_add] at later
    simp only [run, runFrom, Nat.zero_add, later]
    exact .sleep duration (ih state)

theorem ends_done_iff {value result : α} {trace : List (Exchange I)} {elapsed : Millis} :
    (Activity.done value).Ends trace elapsed result ↔
      trace = [] ∧ elapsed = 0 ∧ result = value := by
  constructor
  · rintro ⟨⟩
    exact ⟨rfl, rfl, rfl⟩
  · rintro ⟨rfl, rfl, rfl⟩
    exact .done result

theorem ends_ask_iff {question : I.Ask} {next : I.Reply question → Activity I α} {result : α}
    {trace : List (Exchange I)} {elapsed : Millis} :
    (Activity.ask question next).Ends trace elapsed result ↔
      ∃ reply rest, trace = ⟨question, reply⟩ :: rest ∧ (next reply).Ends rest elapsed result := by
  constructor
  · rintro (_ | ⟨reply, rest⟩)
    exact ⟨reply, _, rfl, rest⟩
  · rintro ⟨reply, rest, rfl, ends⟩
    exact .ask reply ends

theorem ends_sleep_iff {next : Activity I α} {duration : Millis} {result : α}
    {trace : List (Exchange I)} {elapsed : Millis} :
    (Activity.sleep duration next).Ends trace elapsed result ↔
      ∃ rest, elapsed = duration + rest ∧ next.Ends trace rest result := by
  constructor
  · rintro (_ | _ | ⟨_, rest⟩)
    exact ⟨_, rfl, rest⟩
  · rintro ⟨rest, rfl, ends⟩
    exact .sleep duration ends

/-- One activity after another: the traces follow each other, and the times add up. -/
theorem ends_bind_iff {first : Activity I α} {next : α → Activity I β} {result : β}
    {trace : List (Exchange I)} {elapsed : Millis} :
    (first.bind next).Ends trace elapsed result ↔
      ∃ before after early late middle, trace = before ++ after ∧ elapsed = early + late ∧
        first.Ends before early middle ∧ (next middle).Ends after late result := by
  induction first generalizing trace elapsed with
  | done value =>
    constructor
    · intro ends
      exact ⟨[], trace, 0, elapsed, value, rfl, (Nat.zero_add _).symm, .done value, ends⟩
    · rintro ⟨before, after, early, late, middle, rfl, rfl, ends, rest⟩
      obtain ⟨rfl, rfl, rfl⟩ := ends_done_iff.mp ends
      simpa using rest
  | ask question rest ih =>
    constructor
    · intro ends
      obtain ⟨reply, tail, rfl, tailEnds⟩ := ends_ask_iff.mp ends
      obtain ⟨before, after, early, late, middle, rfl, rfl, first, last⟩ := (ih reply).mp tailEnds
      exact ⟨_ :: before, after, early, late, middle, rfl, rfl, .ask reply first, last⟩
    · rintro ⟨before, after, early, late, middle, rfl, rfl, first, last⟩
      obtain ⟨reply, tail, rfl, tailEnds⟩ := ends_ask_iff.mp first
      exact .ask reply ((ih reply).mpr ⟨tail, after, early, late, middle, rfl, rfl, tailEnds, last⟩)
  | sleep duration rest ih =>
    constructor
    · intro ends
      obtain ⟨remaining, rfl, restEnds⟩ := ends_sleep_iff.mp ends
      obtain ⟨before, after, early, late, middle, rfl, rfl, first, last⟩ := ih.mp restEnds
      exact ⟨before, after, duration + early, late, middle, rfl, (Nat.add_assoc ..).symm,
        .sleep duration first, last⟩
    · rintro ⟨before, after, early, late, middle, rfl, rfl, first, last⟩
      obtain ⟨remaining, rfl, restEnds⟩ := ends_sleep_iff.mp first
      rw [Nat.add_assoc]
      exact .sleep duration
        (ih.mpr ⟨before, after, remaining, late, middle, rfl, rfl, restEnds, last⟩)

/-- What only changes the result takes no time and no exchange. -/
theorem ends_bind_done {first : Activity I α} {make : α → β} {result : β}
    {trace : List (Exchange I)} {elapsed : Millis}
    (ends : (first.bind fun value => .done (make value)).Ends trace elapsed result) :
    ∃ value, first.Ends trace elapsed value ∧ result = make value := by
  obtain ⟨before, after, early, late, value, rfl, rfl, own, rest⟩ := ends_bind_iff.mp ends
  obtain ⟨rfl, rfl, same⟩ := ends_done_iff.mp rest
  exact ⟨value, by simpa using own, same⟩

/-- A failure ends the whole; after a success comes the rest. -/
theorem ends_andThen {ε : Type} {first : Activity I (Except ε α)}
    {next : α → Activity I (Except ε β)} {result : Except ε β} {trace : List (Exchange I)}
    {elapsed : Millis} (ends : (andThen first next).Ends trace elapsed result) :
    (∃ reason, first.Ends trace elapsed (.error reason) ∧ result = .error reason) ∨
      ∃ before after early late middle, trace = before ++ after ∧ elapsed = early + late ∧
        first.Ends before early (.ok middle) ∧ (next middle).Ends after late result := by
  obtain ⟨before, after, early, late, middle, rfl, rfl, own, onward⟩ := ends_bind_iff.mp ends
  cases middle with
  | error reason =>
    obtain ⟨rfl, rfl, rfl⟩ := ends_done_iff.mp onward
    rw [List.append_nil]
    exact .inl ⟨reason, own, rfl⟩
  | ok middle => exact .inr ⟨before, after, early, late, middle, rfl, rfl, own, onward⟩

theorem ends_andThen_ok {ε : Type} {first : Activity I (Except ε α)}
    {next : α → Activity I (Except ε β)} {trace : List (Exchange I)} {elapsed : Millis} {result : β}
    (ends : (andThen first next).Ends trace elapsed (.ok result)) :
    ∃ before after early late middle, trace = before ++ after ∧ elapsed = early + late ∧
      first.Ends before early (.ok middle) ∧ (next middle).Ends after late (.ok result) := by
  rcases ends_andThen ends with ⟨reason, _, failed⟩ | parts
  · cases failed
  · exact parts

theorem ends_mapError_iff {ε δ : Type} {change : ε → δ} {activity : Activity I (Except ε α)}
    {result : Except δ α} {trace : List (Exchange I)} {elapsed : Millis} :
    (mapError change activity).Ends trace elapsed result ↔
      ∃ original, activity.Ends trace elapsed original ∧ result = original.mapError change := by
  constructor
  · intro ends
    obtain ⟨before, after, early, late, original, rfl, rfl, own, finished⟩ := ends_bind_iff.mp ends
    obtain ⟨rfl, rfl, rfl⟩ := ends_done_iff.mp finished
    rw [List.append_nil]
    exact ⟨original, own, rfl⟩
  · rintro ⟨original, own, rfl⟩
    exact ends_bind_iff.mpr
      ⟨trace, [], elapsed, 0, original, by simp, rfl, own, .done (original.mapError change)⟩

theorem history_bind (host : Host I State) (first : Activity I α) (next : α → Activity I β)
    (state : State) :
    (first.bind next).history host state = first.history host state ++
      (next (first.run host state).result).history host (first.run host state).state := by
  induction first generalizing state with
  | done value => rfl
  | ask question rest ih => exact congrArg (List.cons _) (ih _ _)
  | sleep duration rest ih =>
    have later := rest.runFrom_eq host state (0 + duration)
    simp only [bind, history, run, runFrom, later]
    exact ih state

theorem ends_question_bind_iff {question : I.Ask} {next : I.Reply question → Activity I β}
    {result : β} {trace : List (Exchange I)} {elapsed : Millis} :
    ((Activity.question question).bind next).Ends trace elapsed result ↔
      ∃ reply rest, trace = ⟨question, reply⟩ :: rest ∧ (next reply).Ends rest elapsed result :=
  ends_ask_iff

end Activity

/-- A world whose replies are worked out in another world. -/
def Host.serving {I J : Interface} {State : Type} (host : Host J State)
    (service : (question : I.Ask) → Activity J (I.Reply question)) : Host I State where
  answer question state :=
    let run := (service question).run host state
    (run.result, run.state)

namespace Activity

variable {I J : Interface} {State α β : Type}

theorem run_bind (host : Host I State) (first : Activity I α) (next : α → Activity I β)
    (state : State) :
    (first.bind next).run host state =
      let early := first.run host state
      let late := (next early.result).run host early.state
      ⟨late.result, late.state, early.elapsed + late.elapsed⟩ := by
  induction first generalizing state with
  | done value => simp [run, runFrom]
  | ask question rest ih => exact ih _ _
  | sleep duration rest ih =>
    have before := rest.runFrom_eq host state (0 + duration)
    have whole := (rest.bind next).runFrom_eq host state (0 + duration)
    simp only [bind, run, runFrom, before, whole] at *
    rw [ih state]
    simp [Nat.add_assoc]

/-- Carried out by services, a program gets the result that it has in a world with their replies. -/
theorem run_carryOut (host : Host J State)
    (service : (question : I.Ask) → Activity J (I.Reply question)) (activity : Activity I α)
    (state : State) :
    ((activity.carryOut service).run host state).result =
        (activity.run (host.serving service) state).result ∧
      ((activity.carryOut service).run host state).state =
        (activity.run (host.serving service) state).state := by
  induction activity generalizing state with
  | done result => exact ⟨rfl, rfl⟩
  | ask question next ih =>
    rw [carryOut, run_bind]
    exact ih _ _
  | sleep duration next ih =>
    have outer := (next.carryOut service).runFrom_eq host state (0 + duration)
    have inner := next.runFrom_eq (host.serving service) state (0 + duration)
    simp only [carryOut, run, runFrom, outer, inner]
    exact ih state

end Activity

end PriceRelay
