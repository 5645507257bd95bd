import PriceRelay.Proofs.Activity.History
/-!
How far an activity gets. A part of the course of an activity ends anywhere, also in the middle of a
sleep, and the rest of the activity goes on from there.
-/

namespace PriceRelay.Activity

variable {I : Interface} {State α β : Type}

/-- With the replies of a trace, an activity gets to a rest after some time. -/
inductive Reaches : Activity I α → List (Exchange I) → Millis → Activity I α → Prop where
  | here (activity : Activity I α) : Reaches activity [] 0 activity
  | ask {question : I.Ask} {next : I.Reply question → Activity I α} (reply : I.Reply question)
      {trace : List (Exchange I)} {elapsed : Millis} {rest : Activity I α}
      (onward : Reaches (next reply) trace elapsed rest) :
      Reaches (.ask question next) (⟨question, reply⟩ :: trace) elapsed rest
  | sleep {next : Activity I α} (duration : Millis) {trace : List (Exchange I)}
      {elapsed : Millis} {rest : Activity I α} (onward : Reaches next trace elapsed rest) :
      Reaches (.sleep duration next) trace (duration + elapsed) rest
  /-- The sleep is not over. -/
  | doze {next : Activity I α} (part remaining : Millis) :
      Reaches (.sleep (part + remaining) next) [] part (.sleep remaining next)

variable {activity middle rest next : Activity I α} {trace later : List (Exchange I)}
  {elapsed spent duration : Millis} {result : α}

theorem Reaches.trans (first : activity.Reaches trace elapsed middle)
    (second : middle.Reaches later spent rest) :
    activity.Reaches (trace ++ later) (elapsed + spent) rest := by
  induction first with
  | here activity => simpa using second
  | ask reply onward ih => exact .ask reply (ih second)
  | sleep duration onward ih =>
    rw [Nat.add_assoc]
    exact .sleep duration (ih second)
  | doze part remaining =>
    -- The way goes on inside the sleep: it stays there, ends it, or sleeps some more of it.
    cases second with
    | here => exact .doze part remaining
    | sleep _ onward =>
      rw [← Nat.add_assoc]
      exact .sleep (part + remaining) onward
    | doze _ left =>
      rw [← Nat.add_assoc]
      exact .doze (part + spent) left

theorem reaches_sleep (duration : Millis) (next : Activity I α) :
    (Activity.sleep duration next).Reaches [] duration next :=
  .sleep duration (.here next)

theorem reaches_doze (next : Activity I α) {part : Millis} (within : part ≤ duration) :
    (Activity.sleep duration next).Reaches [] part (.sleep (duration - part) next) := by
  obtain ⟨remaining, rfl⟩ := Nat.exists_eq_add_of_le within
  rw [Nat.add_sub_cancel_left]
  exact .doze part remaining

/-- To end is to reach the end. -/
theorem reaches_done_iff :
    activity.Reaches trace elapsed (.done result) ↔ activity.Ends trace elapsed result := by
  constructor
  · intro walk
    generalize same : Activity.done result = rest at walk
    induction walk with
    | here =>
      subst same
      exact .done result
    | ask reply onward ih => exact .ask reply (ih same)
    | sleep duration onward ih => exact .sleep duration (ih same)
    | doze part remaining => cases same
  · intro ends
    induction ends with
    | done result => exact .here _
    | ask reply rest ih => exact .ask reply ih
    | sleep duration rest ih => exact .sleep duration ih

theorem Reaches.ends (walk : activity.Reaches trace elapsed rest)
    (ends : rest.Ends later spent result) :
    activity.Ends (trace ++ later) (elapsed + spent) result :=
  reaches_done_iff.mp (walk.trans (reaches_done_iff.mpr ends))

/-- At a limit an activity is asleep, and will be for some time yet. -/
def Overruns (limit : Millis) (activity : Activity I α) (trace : List (Exchange I)) : Prop :=
  ∃ duration next, 0 < duration ∧ activity.Reaches trace limit (.sleep duration next)

theorem not_overruns_done {limit : Millis} :
    ¬(Activity.done result : Activity I α).Overruns limit trace := by
  rintro ⟨duration, next, _, walk⟩
  cases walk

theorem overruns_ask_iff {question : I.Ask} {next : I.Reply question → Activity I α}
    {limit : Millis} :
    (Activity.ask question next).Overruns limit trace ↔
      ∃ reply rest, trace = ⟨question, reply⟩ :: rest ∧ (next reply).Overruns limit rest := by
  constructor
  · rintro ⟨duration, later, positive, walk⟩
    cases walk with
    | ask reply onward => exact ⟨reply, _, rfl, duration, later, positive, onward⟩
  · rintro ⟨reply, rest, rfl, duration, later, positive, walk⟩
    exact ⟨duration, later, positive, .ask reply walk⟩

theorem overruns_sleep_iff {limit : Millis} :
    (Activity.sleep duration next).Overruns limit trace ↔
      (limit < duration ∧ trace = []) ∨
        ∃ left, limit = duration + left ∧ next.Overruns left trace := by
  constructor
  · rintro ⟨remaining, later, positive, walk⟩
    cases walk with
    | here => exact .inl ⟨positive, rfl⟩
    | sleep _ onward => exact .inr ⟨_, rfl, remaining, later, positive, onward⟩
    | doze => exact .inl ⟨Nat.lt_add_of_pos_right positive, rfl⟩
  · rintro (⟨long, rfl⟩ | ⟨left, rfl, remaining, later, positive, walk⟩)
    · exact ⟨_, next, Nat.sub_pos_of_lt long, reaches_doze next (Nat.le_of_lt long)⟩
    · exact ⟨remaining, later, positive, .sleep duration walk⟩

theorem overruns_bind {first : Activity I α} {next : α → Activity I β} {limit : Millis}
    (overruns : (first.bind next).Overruns limit trace) :
    first.Overruns limit trace ∨
      ∃ before after early late middle, trace = before ++ after ∧ limit = early + late ∧
        first.Ends before early middle ∧ (next middle).Overruns late after := by
  induction first generalizing trace limit with
  | done value =>
    exact .inr ⟨[], trace, 0, limit, value, rfl, (Nat.zero_add _).symm, .done value, overruns⟩
  | ask question rest ih =>
    obtain ⟨reply, tail, rfl, onward⟩ := overruns_ask_iff.mp overruns
    rcases ih reply onward with first | ⟨before, after, early, late, middle, rfl, rfl, ends, last⟩
    · exact .inl (overruns_ask_iff.mpr ⟨reply, tail, rfl, first⟩)
    · exact .inr ⟨_ :: before, after, early, late, middle, rfl, rfl, .ask reply ends, last⟩
  | sleep duration rest ih =>
    rcases overruns_sleep_iff.mp overruns with ⟨long, rfl⟩ | ⟨left, rfl, onward⟩
    · exact .inl (overruns_sleep_iff.mpr (.inl ⟨long, rfl⟩))
    · rcases ih onward with first | ⟨before, after, early, late, middle, rfl, rfl, ends, last⟩
      · exact .inl (overruns_sleep_iff.mpr (.inr ⟨left, rfl, first⟩))
      · exact .inr ⟨before, after, duration + early, late, middle, rfl, (Nat.add_assoc ..).symm,
          .sleep duration ends, last⟩

end PriceRelay.Activity
