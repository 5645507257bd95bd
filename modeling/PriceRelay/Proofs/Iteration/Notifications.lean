import PriceRelay.Iteration.Loop
/-!
Which notifications start iterations. One that finds the loop waiting starts one at once; one that
comes while the loop is busy is dropped, and the loop goes on as if it had not come.
-/

namespace PriceRelay.Loop

/-- The loop after some signals. -/
def after (loop : Loop) (signals : List Signal) : Loop := signals.foldl step loop

/-- A signal starts an iteration. -/
def Starts (loop : Loop) (signal : Signal) : Prop :=
  loop.phase ≠ .iterating ∧ (loop.step signal).phase = .iterating

instance (loop : Loop) (signal : Signal) : Decidable (loop.Starts signal) :=
  inferInstanceAs (Decidable (_ ∧ _))

def StartsIn : Loop → List Signal → Prop
  | _, [] => False
  | loop, signal :: rest => loop.Starts signal ∨ (loop.step signal).StartsIn rest

instance decidableStartsIn : (loop : Loop) → (signals : List Signal) →
    Decidable (loop.StartsIn signals)
  | _, [] => .isFalse id
  | loop, signal :: rest =>
    have := decidableStartsIn (loop.step signal) rest
    inferInstanceAs (Decidable (_ ∨ _))

/-- An iteration is under way, or the sign of life after it. -/
def Busy (loop : Loop) : Prop := loop.phase = .iterating ∨ loop.phase = .pinging

/-- A loop that is driven by notifications and has looked around: it waits only for want of
anything to do. -/
structure Listening (loop : Loop) : Prop where
  drive : loop.drive = .events
  waiting : loop.phase = .waiting →
    loop.pending = 0 ∧ loop.isCancelled = false ∧ loop.isClosed = false

/-- Two loops that agree on all but the notifications that they have not looked at. Those are
dropped once the loop is not busy any more. -/
structure Alike (loop other : Loop) : Prop where
  same : loop = { other with pending := loop.pending }
  idle : ¬other.Busy → loop = other

section

variable {loop other : Loop} {signal : Signal} {signals : List Signal}

theorem listening_start : Listening { drive := .events } where
  drive := rfl
  waiting _ := ⟨rfl, rfl, rfl⟩

theorem step_drive (loop : Loop) (signal : Signal) : (loop.step signal).drive = loop.drive := by
  have received : (loop.receive signal).drive = loop.drive := by
    cases signal <;> simp only [receive] <;> split <;> rfl
  rw [← received, step, turn]
  repeat' split
  all_goals rfl

theorem turn_waiting (waiting : loop.turn.phase = .waiting) :
    loop.turn.pending = 0 ∧ loop.turn.isCancelled = false ∧ loop.turn.isClosed = false := by
  rw [turn] at waiting ⊢
  split at waiting
  case isFalse busy => exact absurd waiting busy
  case isTrue idle =>
    split at waiting
    · cases waiting
    · split at waiting
      · cases waiting
      · split at waiting
        · cases waiting
        · simp_all

theorem Listening.step (listening : loop.Listening) (signal : Signal) :
    (loop.step signal).Listening where
  drive := (step_drive loop signal).trans listening.drive
  waiting waiting := turn_waiting waiting

theorem Listening.after (listening : loop.Listening) (signals : List Signal) :
    (loop.after signals).Listening := by
  induction signals generalizing loop with
  | nil => exact listening
  | cons signal rest ih => exact ih (listening.step signal)

theorem Listening.eq_start (listening : loop.Listening) (waiting : loop.phase = .waiting) :
    loop = { drive := .events } := by
  obtain ⟨pending, cancelled, closed⟩ := listening.waiting waiting
  have drive := listening.drive
  cases loop
  simp_all

/-- Of all signals a notification that finds the loop waiting starts an iteration. -/
theorem Listening.starts_iff (listening : loop.Listening) :
    loop.Starts signal ↔ signal = .due ∧ loop.phase = .waiting := by
  cases phase : loop.phase with
  | waiting =>
    rw [listening.eq_start phase]
    cases signal <;> decide
  | iterating => simp [Starts, phase]
  | pinging =>
    have drive := listening.drive
    have idle : (loop.step signal).phase ≠ .iterating := by
      cases signal <;> simp [Loop.step, receive, turn, phase, drive]
      repeat' split
      all_goals simp
    simp [Starts, idle]
  | stopped =>
    have stays : (loop.step signal).phase ≠ .iterating := by
      cases signal <;> simp [Loop.step, receive, turn, phase]
    simp [Starts, stays]

theorem Listening.startsIn_iff (listening : loop.Listening) :
    loop.StartsIn signals ↔
      ∃ before later, signals = before ++ .due :: later ∧ (loop.after before).phase = .waiting := by
  induction signals generalizing loop with
  | nil => simp [StartsIn]
  | cons signal rest ih =>
    rw [StartsIn, listening.starts_iff, ih (listening.step signal)]
    constructor
    · rintro (⟨rfl, waiting⟩ | ⟨before, later, rfl, waiting⟩)
      · exact ⟨[], rest, rfl, waiting⟩
      · exact ⟨signal :: before, later, rfl, waiting⟩
    · rintro ⟨before, later, split, waiting⟩
      cases before with
      | nil =>
        injection split with due _
        exact .inl ⟨due, waiting⟩
      | cons first before =>
        injection split with same split
        subst same
        exact .inr ⟨before, later, split, waiting⟩

theorem alike_refl (loop : Loop) : Alike loop loop := ⟨rfl, fun _ => rfl⟩

theorem Alike.phase (alike : Alike loop other) : loop.phase = other.phase := by
  rw [alike.same]

/-- What was not looked at makes no difference to a busy loop, and is gone when it is not busy. -/
theorem Alike.step (alike : Alike loop other) (drive : other.drive = .events) (signal : Signal) :
    Alike (loop.step signal) (other.step signal) := by
  by_cases busy : other.Busy
  · by_cases ended : other.phase = .pinging ∧ signal = .pingEnded
    · obtain ⟨pinging, rfl⟩ := ended
      have equal : loop.step .pingEnded = other.step .pingEnded := by
        rw [alike.same]
        simp [Loop.step, receive, pinging, drive]
      rw [equal]
      exact alike_refl _
    · have stays : (other.step signal).Busy := by
        rcases busy with phase | phase <;> cases signal <;>
          simp_all [Loop.step, receive, turn, Busy]
      refine ⟨?_, fun idle => absurd stays idle⟩
      rw [alike.same]
      rcases busy with phase | phase <;> cases signal <;>
        simp_all [Loop.step, receive, turn]
  · rw [alike.idle busy]
    exact alike_refl _

theorem Alike.after (alike : Alike loop other) (drive : other.drive = .events)
    (signals : List Signal) : Alike (loop.after signals) (other.after signals) := by
  induction signals generalizing loop other with
  | nil => exact alike
  | cons signal rest ih =>
    exact ih (alike.step drive signal) ((step_drive other signal).trans drive)

theorem Alike.starts_iff (alike : Alike loop other) (drive : other.drive = .events) :
    loop.Starts signal ↔ other.Starts signal := by
  rw [Starts, Starts, alike.phase, (alike.step drive signal).phase]

theorem Alike.startsIn_iff (alike : Alike loop other) (drive : other.drive = .events) :
    loop.StartsIn signals ↔ other.StartsIn signals := by
  induction signals generalizing loop other with
  | nil => exact Iff.rfl
  | cons signal rest ih =>
    have further := ih (alike.step drive signal) ((step_drive other signal).trans drive)
    rw [StartsIn, StartsIn, alike.starts_iff drive, further]

theorem Busy.alike_due (busy : loop.Busy) : Alike (loop.step .due) loop := by
  refine ⟨?_, fun idle => absurd busy idle⟩
  rcases busy with phase | phase <;> simp [Loop.step, receive, turn, phase]

theorem Busy.not_starts_due (busy : loop.Busy) (listening : loop.Listening) :
    ¬loop.Starts .due := by
  rw [listening.starts_iff]
  rintro ⟨_, waiting⟩
  rcases busy with phase | phase <;> simp [phase] at waiting

end

/-- Iterations start where notifications find the loop waiting, and nowhere else. A notification
that comes during an iteration, or during the sign of life after it, is dropped: the loop goes on as
it would without, and starts no iteration that it would not start anyway. -/
theorem events_notifications (before rest : List Signal) :
    let loop := ({ drive := .events } : Loop).after before
    (loop.StartsIn rest ↔ ∃ earlier later, rest = earlier ++ .due :: later ∧
      (loop.after earlier).phase = .waiting) ∧
    (loop.phase = .waiting → loop.Starts .due) ∧
    (loop.Busy → Alike (loop.after (.due :: rest)) (loop.after rest) ∧
      (loop.StartsIn (.due :: rest) ↔ loop.StartsIn rest)) := by
  intro loop
  have listening : loop.Listening := listening_start.after before
  refine ⟨listening.startsIn_iff, fun waiting => listening.starts_iff.mpr ⟨rfl, waiting⟩, ?_⟩
  intro busy
  have alike := busy.alike_due
  refine ⟨alike.after listening.drive rest, ?_⟩
  rw [StartsIn, alike.startsIn_iff listening.drive]
  exact or_iff_right (busy.not_starts_due listening)

/-- After a first notification the loop is busy, and a second one makes no difference. -/
theorem events_notifications_dropped :
    let loop := ({ drive := .events } : Loop).after [.due]
    loop.Busy ∧ Alike (loop.after [.due, .iterationEnded, .pingEnded])
      (loop.after [.iterationEnded, .pingEnded]) := by
  have busy : (({ drive := .events } : Loop).after [.due]).Busy := .inl rfl
  exact ⟨busy, ((events_notifications [.due] [.iterationEnded, .pingEnded]).2.2 busy).1⟩

/-- So the loop may wait again, with nothing to look at, though no iteration has started since a
notification. -/
theorem events_not_followed :
    ¬∀ before rest : List Signal,
      let loop := ({ drive := .events } : Loop).after before
      let last := loop.after (.due :: rest)
      last.phase = .waiting → last.pending = 0 → last.isCancelled = false →
        loop.StartsIn (.due :: rest) := by
  intro followed
  have starts := followed [.due] [.iterationEnded, .pingEnded] rfl rfl rfl
  exact absurd starts (by decide)

end PriceRelay.Loop
