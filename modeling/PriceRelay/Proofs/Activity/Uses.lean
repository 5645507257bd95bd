import PriceRelay.Proofs.Activity.History
import PriceRelay.World
/-!
What an activity may ask. The questions of a composed activity are those of its parts, and in a
course nothing else is asked.
-/

namespace PriceRelay.Activity

variable {I : Interface} {α β γ : Type} {allowed : I.Ask → Prop}

/-- What comes after need be known for results only that are reached. -/
theorem Uses.bindReached {first : Activity I α} {next : α → Activity I β}
    (uses : first.Uses allowed) (later : ∀ trace elapsed result,
      first.Ends trace elapsed result → (next result).Uses allowed) :
    (first.bind next).Uses allowed := by
  induction first with
  | done result => exact later [] 0 result (.done result)
  | ask question rest ih =>
    refine ⟨uses.1, fun reply => ih reply (uses.2 reply) fun trace elapsed result ends => ?_⟩
    exact later _ elapsed result (.ask reply ends)
  | sleep duration rest ih =>
    exact ih uses fun trace elapsed result ends => later trace _ result (.sleep duration ends)

theorem Uses.bind {first : Activity I α} {next : α → Activity I β} (uses : first.Uses allowed)
    (later : ∀ result, (next result).Uses allowed) : (first.bind next).Uses allowed :=
  uses.bindReached fun _ _ result _ => later result

theorem Uses.mono {wider : I.Ask → Prop} {activity : Activity I α} (uses : activity.Uses allowed)
    (implies : ∀ question, allowed question → wider question) : activity.Uses wider := by
  induction activity with
  | done result => exact trivial
  | ask question next ih => exact ⟨implies question uses.1, fun reply => ih reply (uses.2 reply)⟩
  | sleep duration next ih => exact ih uses

theorem Uses.andThen {ε : Type} {first : Activity I (Except ε α)}
    {next : α → Activity I (Except ε β)} (uses : first.Uses allowed)
    (later : ∀ result, (next result).Uses allowed) : (andThen first next).Uses allowed := by
  refine uses.bind fun result => ?_
  cases result with
  | ok result => exact later result
  | error reason => exact trivial

theorem Uses.mapError {ε δ : Type} {change : ε → δ} {activity : Activity I (Except ε α)}
    (uses : activity.Uses allowed) : (mapError change activity).Uses allowed :=
  uses.bind fun _ => trivial

theorem Uses.carryOut {J : Interface} {asked : J.Ask → Prop} {activity : Activity J α}
    {service : (question : J.Ask) → Activity I (J.Reply question)} (uses : activity.Uses asked)
    (serves : ∀ question, asked question → (service question).Uses allowed) :
    (activity.carryOut service).Uses allowed := by
  induction activity with
  | done result => exact trivial
  | ask question next ih =>
    exact (serves question uses.1).bind fun reply => ih reply (uses.2 reply)
  | sleep duration next ih => exact ih uses

/-- In a course nothing is asked that the activity may not ask. -/
theorem Uses.asked {activity : Activity I α} (uses : activity.Uses allowed)
    {trace : List (Exchange I)} {elapsed : Millis} {result : α}
    (ends : activity.Ends trace elapsed result) {exchange : Exchange I}
    (member : exchange ∈ trace) : allowed exchange.question := by
  induction ends with
  | done result => cases member
  | ask reply rest ih =>
    rcases List.mem_cons.mp member with rfl | later
    · exact uses.1
    · exact ih (uses.2 reply) later
  | sleep duration rest ih => exact ih uses member

theorem Uses.quiet {activity : Activity I α} (uses : activity.Uses fun _ => False)
    {trace : List (Exchange I)} {elapsed : Millis} {result : α}
    (ends : activity.Ends trace elapsed result) : trace = [] :=
  List.eq_nil_iff_forall_not_mem.mpr fun _ member => uses.asked ends member

section

variable {onLeft : α → Activity I β → Activity I γ} {onRight : β → Activity I α → Activity I γ}
  {left : Activity I α} {right : Activity I β}

theorem Uses.besideAsleep {wake : Activity I β → Activity I γ} (asleep : left.Uses allowed)
    (uses : right.Uses allowed)
    (ended : ∀ result rest, rest.Uses allowed → (onRight result rest).Uses allowed)
    (woken : ∀ rest, rest.Uses allowed → (wake rest).Uses allowed) (duration : Millis) :
    (besideAsleep onRight wake left duration right).Uses allowed := by
  induction right generalizing duration with
  | done result => exact ended result _ asleep
  | ask question next ih => exact ⟨uses.1, fun reply => ih reply (uses.2 reply) duration⟩
  | sleep other next ih =>
    unfold Activity.besideAsleep
    split
    · exact woken _ uses
    · exact ih uses _

theorem Uses.beside (usesLeft : left.Uses allowed) (usesRight : right.Uses allowed)
    (endedLeft : ∀ result rest, rest.Uses allowed → (onLeft result rest).Uses allowed)
    (endedRight : ∀ result rest, rest.Uses allowed → (onRight result rest).Uses allowed) :
    (beside onLeft onRight left right).Uses allowed := by
  induction left generalizing right with
  | done result => exact endedLeft result right usesRight
  | ask question next ih => exact ⟨usesLeft.1, fun reply => ih reply (usesLeft.2 reply) usesRight⟩
  | sleep duration next ih =>
    have asleep : next.Uses allowed := usesLeft
    exact asleep.besideAsleep usesRight endedRight (fun rest uses => ih asleep uses) duration

theorem Uses.both (usesLeft : left.Uses allowed) (usesRight : right.Uses allowed) :
    (both left right).Uses allowed :=
  usesLeft.beside usesRight (fun _ _ uses => uses.bind fun _ => trivial)
    fun _ _ uses => uses.bind fun _ => trivial

theorem Uses.within {limit : Millis} (uses : left.Uses allowed) :
    (within limit left).Uses allowed :=
  uses.beside trivial (fun _ _ _ => trivial) fun _ _ _ => trivial

end

section

variable {ε : Type}

theorem Uses.tryBoth {left : Activity I (Except ε α)} {right : Activity I (Except ε β)}
    (usesLeft : left.Uses allowed) (usesRight : right.Uses allowed) :
    (tryBoth left right).Uses allowed := by
  refine usesLeft.beside usesRight ?_ ?_
  · intro result rest uses
    cases result with
    | ok result => exact uses.andThen fun _ => trivial
    | error reason => exact trivial
  · intro result rest uses
    cases result with
    | ok result => exact uses.andThen fun _ => trivial
    | error reason => exact trivial

theorem Uses.firstOf {left right : Activity I (Except ε α)} (usesLeft : left.Uses allowed)
    (usesRight : right.Uses allowed) : (firstOf left right).Uses allowed := by
  refine usesLeft.beside usesRight ?_ ?_
  · intro result rest uses
    cases result with
    | ok result => exact trivial
    | error reason => exact uses
  · intro result rest uses
    cases result with
    | ok result => exact trivial
    | error reason => exact uses

/-- A race asks nothing but what those who take part ask. -/
theorem Uses.race {nobody : ε} {activities : List (Activity I (Except ε α))}
    (uses : ∀ activity ∈ activities, activity.Uses allowed) :
    (race nobody activities).Uses allowed := by
  induction activities with
  | nil => exact trivial
  | cons first rest ih =>
    have one := uses first List.mem_cons_self
    have others := ih fun activity member => uses activity (List.mem_cons_of_mem first member)
    cases rest with
    | nil => exact one
    | cons second more => exact one.firstOf others

end

end PriceRelay.Activity

namespace PriceRelay.Task

variable {α : Type} {allowed : world.Ask → Prop}

theorem uses_after {delay : Millis} {next : Task α} (uses : next.Uses allowed) :
    (after delay next).Uses allowed := by
  unfold after
  split
  · exact uses
  · exact uses

theorem uses_settle (timed : Timed α) : (settle timed).Uses allowed := uses_after trivial

/-- While an answer takes its time nothing is asked, whether the wait is cut short or not. -/
theorem within_settle_quiet {timed : Timed α} {limit elapsed : Millis}
    {trace : List (Exchange world)} {result : Option (Except Failure α)}
    (ends : (Activity.within limit (settle timed)).Ends trace elapsed result) : trace = [] :=
  (uses_settle timed).within.quiet ends

theorem uses_rpc {provider : Nat} {call : RpcCall} (may : allowed (.rpc provider call)) :
    (Task.rpc provider call).Uses allowed :=
  ⟨may, fun reply => uses_settle reply⟩

end PriceRelay.Task
