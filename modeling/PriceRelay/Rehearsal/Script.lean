import PriceRelay.World
/-!
Scripts of answers. Every use of a key takes its next answer; the last one repeats. The waits of a
script have a longest length.
-/

namespace PriceRelay

/-- The answers to come, by key. -/
abbrev Script (α : Type) := List (String × List (Timed α))

namespace Script

variable {α : Type}

/-- The clock of a rehearsal sets no timer further ahead than thirty years. -/
def longestWait : Millis := 30 * 365 * 24 * 60 * 60 * 1000

/-- How long the clock waits when it is asked to. -/
def wait (duration : Millis) : Millis := min duration longestWait

def has (script : Script α) (key : String) : Bool := (script.lookup key).isSome

def missing (key : String) : Timed α := ⟨0, .error (.text s!"no answer for {key}")⟩

/-- What happens when a script holds an answer of the wrong kind. -/
def misplaced {α : Type} : Except Failure α := .error (.text "misplaced answer")

/-- Take the next answer of a key. -/
def take (script : Script α) (key : String) : Timed α × Script α :=
  match script with
  | [] => (missing key, [])
  | (other, answers) :: rest =>
    if other = key then
      match answers with
      | [] => (missing key, script)
      | [last] => (last, script)
      | next :: more => (next, (other, more) :: rest)
    else
      let (answer, rest) := take rest key
      (answer, (other, answers) :: rest)

end Script

namespace Timed

variable {α β : Type}

/-- An answer that takes no time. -/
def now (answer : α) : Timed α := ⟨0, .ok answer⟩

def map (change : α → β) (timed : Timed α) : Timed β := ⟨timed.delay, timed.answer.map change⟩

/-- An answer that depends on one before it. -/
def andThen (timed : Timed α) (next : α → Except Failure β) : Timed β :=
  ⟨timed.delay, timed.answer >>= next⟩

end Timed

end PriceRelay
