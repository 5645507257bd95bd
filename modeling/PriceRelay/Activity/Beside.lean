import PriceRelay.Activity.Basic
/-!
Activities side by side. They take turns at asking and share the time that passes; where both could
go on, the left one does first.
-/

namespace PriceRelay.Activity

variable {I : Interface} {α β γ ε : Type}

/-- The left activity sleeps for `duration`: the right one goes on until it sleeps longer. -/
def besideAsleep (onRight : β → Activity I α → Activity I γ) (wake : Activity I β → Activity I γ)
    (left : Activity I α) (duration : Millis) : Activity I β → Activity I γ
  | .done result => onRight result (.sleep duration left)
  | .ask question next =>
    .ask question fun reply => besideAsleep onRight wake left duration (next reply)
  | .sleep other next =>
    if duration ≤ other then .sleep duration (wake (.sleep (other - duration) next))
    else .sleep other (besideAsleep onRight wake left (duration - other) next)

/-- Two activities side by side. The one that ends first hands over its result and what is left of
the other. -/
def beside (onLeft : α → Activity I β → Activity I γ) (onRight : β → Activity I α → Activity I γ) :
    Activity I α → Activity I β → Activity I γ
  | .done result => onLeft result
  | .ask question next => fun right =>
    .ask question fun reply => beside onLeft onRight (next reply) right
  | .sleep duration next => besideAsleep onRight (beside onLeft onRight next) next duration

/-- Both results. -/
def both (left : Activity I α) (right : Activity I β) : Activity I (α × β) :=
  beside (fun a rest => rest.bind fun b => .done (a, b))
    (fun b rest => rest.bind fun a => .done (a, b)) left right

/-- Both results, or the failure that comes first. -/
def tryBoth (left : Activity I (Except ε α)) (right : Activity I (Except ε β)) :
    Activity I (Except ε (α × β)) :=
  beside
    (fun
      | .ok a => fun rest => andThen rest fun b => .done (.ok (a, b))
      | .error error => fun _ => .done (.error error))
    (fun
      | .ok b => fun rest => andThen rest fun a => .done (.ok (a, b))
      | .error error => fun _ => .done (.error error))
    left right

/-- The result if it comes within the limit; one that comes at the limit counts. -/
def within (limit : Millis) (activity : Activity I α) : Activity I (Option α) :=
  beside (fun result _ => .done (some result)) (fun _ _ => .done none) activity (pause limit)

/-- The first of two to succeed, or the failure that comes last. -/
def firstOf (left right : Activity I (Except ε α)) : Activity I (Except ε α) :=
  beside
    (fun
      | .ok result => fun _ => .done (.ok result)
      | .error _ => id)
    (fun
      | .ok result => fun _ => .done (.ok result)
      | .error _ => id)
    left right

/-- The first of all to succeed, or the failure that comes last. -/
def race (nobody : ε) : List (Activity I (Except ε α)) → Activity I (Except ε α)
  | [] => .done (.error nobody)
  | [activity] => activity
  | activity :: rest => firstOf activity (race nobody rest)

/-- The results of all, in order. -/
def all : List (Activity I α) → Activity I (List α)
  | [] => .done []
  | activity :: rest => (both activity (all rest)).bind fun (a, more) => .done (a :: more)

/-- An activity with another in the background. What is left of the background is handed over. -/
def alongside (activity : Activity I α) (background : Activity I Unit) :
    Activity I (α × Activity I Unit) :=
  beside (fun result rest => .done (result, rest))
    (fun _ rest => rest.bind fun result => .done (result, .done ())) activity background

/-- Two activities in the background. -/
def merge (left right : Activity I Unit) : Activity I Unit :=
  beside (fun _ rest => rest) (fun _ rest => rest) left right

end PriceRelay.Activity
