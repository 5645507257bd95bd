import PriceRelay.Package
/-!
Activities: programs that ask the world around them and let time pass. An activity is a tree, so
several of them can be merged into one, and a run is a walk along one branch.
-/

namespace PriceRelay

/-- Which questions may be asked, and what is answered. -/
structure Interface where
  Ask : Type
  Reply : Ask → Type

/-- A program over an interface. Only a sleep takes time. -/
inductive Activity (I : Interface) (α : Type) where
  | done (result : α)
  | ask (question : I.Ask) (next : I.Reply question → Activity I α)
  | sleep (duration : Millis) (next : Activity I α)

namespace Activity

variable {I : Interface} {α β γ ε : Type}

/-- One activity after another. -/
def bind : Activity I α → (α → Activity I β) → Activity I β
  | .done result, then_ => then_ result
  | .ask question next, then_ => .ask question fun reply => (next reply).bind then_
  | .sleep duration next, then_ => .sleep duration (next.bind then_)

instance : Monad (Activity I) where
  pure := .done
  bind := bind

/-- Ask one question. -/
def question (question : I.Ask) : Activity I (I.Reply question) := .ask question .done

/-- Let time pass. -/
def pause (duration : Millis) : Activity I Unit := .sleep duration (.done ())

/-- Go on with a success; a failure ends the whole. -/
def andThen (first : Activity I (Except ε α)) (next : α → Activity I (Except ε β)) :
    Activity I (Except ε β) :=
  first.bind fun
    | .ok result => next result
    | .error error => .done (.error error)

def mapError {δ : Type} (change : ε → δ) (activity : Activity I (Except ε α)) :
    Activity I (Except δ α) :=
  activity.bind fun result => .done (result.mapError change)

/-- Carry out a program over one interface by programs over another. -/
def carryOut {J : Interface} (service : (question : I.Ask) → Activity J (I.Reply question)) :
    Activity I α → Activity J α
  | .done result => .done result
  | .ask question next => (service question).bind fun reply => (next reply).carryOut service
  | .sleep duration next => .sleep duration (next.carryOut service)

/-- Every question that the activity can ask is allowed. -/
def Uses (allowed : I.Ask → Prop) : Activity I α → Prop
  | .done _ => True
  | .ask question next => allowed question ∧ ∀ reply, Uses allowed (next reply)
  | .sleep _ next => Uses allowed next

@[simp] theorem bind_done (result : α) (next : α → Activity I β) :
    (Activity.done result).bind next = next result := rfl

@[simp] theorem bind_pure (activity : Activity I α) : activity.bind .done = activity := by
  induction activity with
  | done result => rfl
  | ask question next ih => simp only [bind]; congr 1; funext reply; exact ih reply
  | sleep duration next ih => simp only [bind, ih]

theorem bind_assoc (activity : Activity I α) (first : α → Activity I β)
    (second : β → Activity I γ) :
    (activity.bind first).bind second = activity.bind fun result => (first result).bind second := by
  induction activity with
  | done result => rfl
  | ask question next ih => simp only [bind]; congr 1; funext reply; exact ih reply
  | sleep duration next ih => simp only [bind, ih]

theorem andThen_assoc {ε : Type} (activity : Activity I (Except ε α))
    (first : α → Activity I (Except ε β)) (second : β → Activity I (Except ε γ)) :
    andThen (andThen activity first) second =
      andThen activity fun result => andThen (first result) second := by
  unfold andThen
  rw [bind_assoc]
  congr 1
  funext result
  cases result <;> rfl

end Activity

end PriceRelay
