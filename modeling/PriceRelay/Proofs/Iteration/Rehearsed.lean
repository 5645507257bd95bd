import Mathlib.Data.List.TakeDrop
import PriceRelay.Proofs.Activity.SideBySide
import PriceRelay.Proofs.Iteration.Service
import PriceRelay.Rehearsal.Timeline
/-!
A rehearsal is a run of the service: signals come at the times of its timeline, jobs get the answers
of its stage, and everything else happens as in any run.
-/

namespace PriceRelay

/-- Next to what goes on in the background a task ends as it would alone. -/
theorem Activity.ends_alongside {I : Interface} {α : Type} {activity : Activity I α}
    {background rest : Activity I Unit} {trace : List (Exchange I)} {elapsed : Millis} {result : α}
    (ends : (activity.alongside background).Ends trace elapsed (result, rest)) :
    ∃ part spent, activity.Ends part spent result := by
  obtain ⟨before, after, early, late, -, -, own | other⟩ := ends_beside ends
  · obtain ⟨ended, right, ⟨part, -, way⟩, -, finished⟩ := own
    obtain ⟨-, -, same⟩ := ends_done_iff.mp finished
    cases same
    exact ⟨part, early, reaches_done_iff.mp way⟩
  · obtain ⟨ended, left, -, ⟨part, -, way⟩, finished⟩ := other
    obtain ⟨middle, last, soon, later, value, -, -, onward, ended⟩ := ends_bind_iff.mp finished
    obtain ⟨-, -, same⟩ := ends_done_iff.mp ended
    cases same
    exact ⟨part ++ middle, early + soon, way.ends onward⟩

namespace Rehearsal

theorem play_ends {α : Type} (rehearsal : Rehearsal) (task : Task α) :
    ∃ trace spent, task.Ends trace spent (rehearsal.play task).1 := by
  have ends := Activity.run_ends Stage.host (task.alongside rehearsal.background) rehearsal.stage
  exact Activity.ends_alongside ends

theorem handOver_eq (rehearsal : Rehearsal) (time : Millis) :
    ∃ past future, rehearsal.signals = past ++ future ∧
      (rehearsal.handOver time).relayer = rehearsal.relayer ∧
      (rehearsal.handOver time).signals = future ∧
      (rehearsal.handOver time).loop =
        past.foldl (fun loop signal => loop.step signal.2) rehearsal.loop := by
  have stepped : ∀ (past : List (Millis × Signal)) (rehearsal : Rehearsal),
      let after := past.foldl (fun rehearsal signal => rehearsal.step signal.2) rehearsal
      after.relayer = rehearsal.relayer ∧ after.signals = rehearsal.signals ∧
        after.loop = past.foldl (fun loop signal => loop.step signal.2) rehearsal.loop := by
    intro past
    induction past with
    | nil => exact fun _ => ⟨rfl, rfl, rfl⟩
    | cons first rest ih => exact fun rehearsal => ih (rehearsal.step first.2)
  let isPast (signal : Millis × Signal) : Bool := signal.1 < time
  let early := rehearsal.signals.span isPast
  have split : rehearsal.signals = early.1 ++ early.2 := by
    simp only [early, List.span_eq_takeWhile_dropWhile]
    exact List.takeWhile_append_dropWhile.symm
  exact ⟨early.1, early.2, split, stepped early.1 { rehearsal with signals := early.2 }⟩

end Rehearsal

namespace Service

variable {relayer : Relayer} {drive : Drive} {past : List Happening} {loop : Loop}
  {jobs : List Job} {signal : Signal}

theorem Runs.arrives_busy (runs : Runs relayer drive past ⟨loop, jobs⟩)
    (busy : loop.phase ≠ .waiting) (outside : signal.Outside drive) :
    (∃ later, Runs relayer drive later ⟨loop.step signal, jobs⟩) ∧
      (loop.step signal).phase = loop.phase := by
  rw [← runs.sound.flagged.driven] at outside
  have phase := receive_phase outside
  have stays : loop.step signal = loop.receive signal := by
    rw [← phase] at busy
    rw [Loop.step, Loop.turn, if_neg busy]
  rw [stays]
  exact ⟨⟨_, runs.step (.arrives outside)⟩, phase⟩

theorem Runs.arrives_fresh (runs : Runs relayer drive past ⟨loop, begun relayer loop.phase⟩)
    (outside : signal.Outside drive) :
    ∃ later, Runs relayer drive later
      ⟨loop.step signal, begun relayer (loop.step signal).phase⟩ := by
  by_cases waiting : loop.phase = .waiting
  · have outsideLoop : signal.Outside loop.drive := runs.sound.flagged.driven ▸ outside
    have phase : (loop.receive signal).phase = .waiting := (receive_phase outsideLoop).trans waiting
    rw [waiting, begun] at runs
    have turned := (runs.step (.arrives outsideLoop)).step (.turns phase)
    rw [move_turn relayer phase rfl] at turned
    exact ⟨_, turned⟩
  · obtain ⟨⟨later, arrived⟩, phase⟩ := runs.arrives_busy waiting outside
    exact ⟨later, by rw [phase]; exact arrived⟩

theorem Runs.arriveAll_busy {signals : List (Millis × Signal)}
    (runs : Runs relayer drive past ⟨loop, jobs⟩) (busy : loop.phase ≠ .waiting)
    (outside : ∀ signal ∈ signals, signal.2.Outside drive) :
    let after := signals.foldl (fun loop signal => loop.step signal.2) loop
    (∃ later, Runs relayer drive later ⟨after, jobs⟩) ∧ after.phase = loop.phase := by
  induction signals generalizing loop past with
  | nil => exact ⟨⟨past, runs⟩, rfl⟩
  | cons first rest ih =>
    obtain ⟨⟨later, arrived⟩, phase⟩ := runs.arrives_busy busy (outside first List.mem_cons_self)
    obtain ⟨onward, same⟩ := ih arrived (phase ▸ busy)
      fun signal member => outside signal (List.mem_cons_of_mem _ member)
    exact ⟨onward, same.trans phase⟩

theorem Runs.arriveAll_fresh {signals : List (Millis × Signal)}
    (runs : Runs relayer drive past ⟨loop, begun relayer loop.phase⟩)
    (outside : ∀ signal ∈ signals, signal.2.Outside drive) :
    let after := signals.foldl (fun loop signal => loop.step signal.2) loop
    ∃ later, Runs relayer drive later ⟨after, begun relayer after.phase⟩ := by
  induction signals generalizing loop past with
  | nil => exact ⟨past, runs⟩
  | cons first rest ih =>
    obtain ⟨later, arrived⟩ := runs.arrives_fresh (outside first List.mem_cons_self)
    exact ih arrived fun signal member => outside signal (List.mem_cons_of_mem _ member)

/-- An iteration that is over has been the only job, and its sign of life begins. -/
theorem Runs.iterationEnds {record : List (Exchange world)} {spent : Millis} {watch : Task Unit}
    (runs : Runs relayer drive past ⟨loop, [.iteration record spent (.done watch)]⟩) :
    ∃ later, Runs relayer drive later
      ⟨loop.step .iterationEnded, begun relayer (loop.step .iterationEnded).phase⟩ := by
  have underWay : UnderWay relayer loop.phase ([] ++ [.iteration record spent (.done watch)]) :=
    runs.sound.underWay
  obtain ⟨iterating, -, -⟩ := underWay.iterated
  have iterated := runs.step (@Step.iterates relayer loop [] [] _ _ _)
  rw [List.nil_append, move_iterationEnded iterating rfl] at iterated
  have next : loop.step .iterationEnded = { loop with phase := .pinging } := by
    simp [Loop.step, Loop.receive, Loop.turn, iterating]
  rw [next]
  exact ⟨_, iterated⟩

theorem Runs.pingEnds {record : List (Exchange world)} {spent : Millis} {result : Unit}
    (runs : Runs relayer drive past ⟨loop, [.ping record spent (.done result)]⟩) :
    ∃ later, Runs relayer drive later
      ⟨loop.step .pingEnded, begun relayer (loop.step .pingEnded).phase⟩ := by
  have underWay : UnderWay relayer loop.phase ([] ++ [.ping record spent (.done result)]) :=
    runs.sound.underWay
  obtain ⟨pinging, -, -⟩ := underWay.pinged
  have pinged := runs.step (@Step.pings relayer loop [] [] _ _ _)
  rw [List.nil_append, move_pingEnded pinging rfl] at pinged
  have turned := pinged.step (.turns (receive_pingEnded pinging).1)
  rw [move_turn relayer (receive_pingEnded pinging).1 rfl] at turned
  exact ⟨_, turned⟩

/-- A rehearsal of a relayer at a point where nothing is under way, or something has just begun. -/
structure Rehearses (relayer : Relayer) (drive : Drive) (rehearsal : Rehearsal) : Prop where
  same : rehearsal.relayer = relayer
  outside : ∀ signal ∈ rehearsal.signals, signal.2.Outside drive
  runs : ∃ past, Runs relayer drive past ⟨rehearsal.loop, begun relayer rehearsal.loop.phase⟩

variable {rehearsal : Rehearsal}

theorem Rehearses.alike {other : Rehearsal} (rehearses : Rehearses relayer drive rehearsal)
    (relayer_same : other.relayer = rehearsal.relayer)
    (signals : other.signals = rehearsal.signals) (loop : other.loop = rehearsal.loop) :
    Rehearses relayer drive other := by
  obtain ⟨same, outside, runs⟩ := rehearses
  refine ⟨relayer_same.trans same, ?_, ?_⟩
  · rw [signals]
    exact outside
  · rw [loop]
    exact runs

theorem Rehearses.handOver (rehearses : Rehearses relayer drive rehearsal) (time : Millis) :
    Rehearses relayer drive (rehearsal.handOver time) := by
  obtain ⟨same, outside, past, runs⟩ := rehearses
  obtain ⟨early, future, split, unchanged, signals, loop⟩ := rehearsal.handOver_eq time
  rw [split] at outside
  refine ⟨unchanged.trans same, ?_, ?_⟩
  · rw [signals]
    exact fun signal member => outside signal (List.mem_append_right _ member)
  · rw [loop]
    exact runs.arriveAll_fresh fun signal member => outside signal (List.mem_append_left _ member)

theorem Rehearses.step (rehearses : Rehearses relayer drive rehearsal)
    (outside : signal.Outside drive) : Rehearses relayer drive (rehearsal.step signal) := by
  obtain ⟨same, fitting, past, runs⟩ := rehearses
  exact ⟨same, fitting, runs.arrives_fresh outside⟩

theorem Rehearses.step_busy (rehearses : Rehearses relayer drive rehearsal)
    (busy : rehearsal.loop.phase ≠ .waiting) (outside : signal.Outside drive) :
    (rehearsal.step signal).loop.phase = rehearsal.loop.phase := by
  obtain ⟨past, runs⟩ := rehearses.runs
  exact (runs.arrives_busy busy outside).2

/-- What came while the loop was busy changes nothing under way. -/
theorem Runs.catchUp (runs : Runs relayer drive past ⟨rehearsal.loop, jobs⟩)
    (busy : rehearsal.loop.phase ≠ .waiting)
    (outside : ∀ signal ∈ rehearsal.signals, signal.2.Outside drive) :
    rehearsal.catchUp.relayer = rehearsal.relayer ∧
      (∀ signal ∈ rehearsal.catchUp.signals, signal.2.Outside drive) ∧
      ∃ later, Runs relayer drive later ⟨rehearsal.catchUp.loop, jobs⟩ := by
  obtain ⟨early, future, split, unchanged, signals, loop⟩ := rehearsal.handOver_eq rehearsal.now
  rw [split] at outside
  rw [Rehearsal.catchUp, unchanged, signals, loop]
  refine ⟨rfl, fun signal member => outside signal (List.mem_append_right _ member), ?_⟩
  exact (runs.arriveAll_busy busy
    fun signal member => outside signal (List.mem_append_left _ member)).1

theorem Rehearses.iterates {trace : List (Exchange world)} {spent : Millis} {watch : Task Unit}
    (rehearses : Rehearses relayer drive rehearsal) (iterating : rehearsal.loop.phase = .iterating)
    (ends : relayer.iterateOnce.Ends trace spent watch) :
    Rehearses relayer drive (rehearsal.catchUp.step .iterationEnded) := by
  obtain ⟨same, outside, past, runs⟩ := rehearses
  rw [iterating] at runs
  have worked := runs.step (@Step.works _ _ [] [] _ _
    (.iteration (Activity.reaches_done_iff.mpr ends)))
  obtain ⟨unchanged, fitting, later, arrived⟩ := worked.catchUp (by simp [iterating]) outside
  exact ⟨unchanged.trans same, fitting, arrived.iterationEnds⟩

theorem Rehearses.pings {trace : List (Exchange world)} {spent : Millis} {result : Unit}
    (rehearses : Rehearses relayer drive rehearsal) (pinging : rehearsal.loop.phase = .pinging)
    (ends : relayer.ping.Ends trace spent result) :
    Rehearses relayer drive (rehearsal.catchUp.step .pingEnded) := by
  obtain ⟨same, outside, past, runs⟩ := rehearses
  rw [pinging] at runs
  have worked := runs.step (@Step.works _ _ [] [] _ _
    (.ping (Activity.reaches_done_iff.mpr ends)))
  obtain ⟨unchanged, fitting, later, arrived⟩ := worked.catchUp (by simp [pinging]) outside
  exact ⟨unchanged.trans same, fitting, arrived.pingEnds⟩

theorem Rehearses.endsPing {trace : List (Exchange world)} {spent : Millis} {result : Unit}
    (rehearses : Rehearses relayer drive rehearsal) (pinging : rehearsal.loop.phase = .pinging)
    (ends : relayer.ping.Ends trace spent result) :
    Rehearses relayer drive
      ((if rehearsal.isLastPing then rehearsal.step .cancelled else rehearsal).catchUp.step
        .pingEnded) := by
  split
  · have outside : Signal.Outside drive .cancelled := trivial
    have busy : rehearsal.loop.phase ≠ .waiting := by simp [pinging]
    have phase : (rehearsal.step .cancelled).loop.phase = .pinging :=
      (rehearses.step_busy busy outside).trans pinging
    exact (rehearses.step outside).pings phase ends
  · exact rehearses.pings pinging ends

theorem Rehearses.takes {time : Millis} {rest : List (Millis × Signal)}
    (rehearses : Rehearses relayer drive rehearsal) (next : rehearsal.signals = (time, signal) :: rest) :
    Rehearses relayer drive ({ rehearsal with signals := rest }.step signal) := by
  obtain ⟨same, outside, past, runs⟩ := rehearses
  rw [next] at outside
  have before : Rehearses relayer drive { rehearsal with signals := rest } :=
    ⟨same, fun other member => outside other (List.mem_cons_of_mem _ member), past, runs⟩
  exact before.step (outside _ List.mem_cons_self)

theorem Rehearses.waits {next : Rehearsal} (rehearses : Rehearses relayer drive rehearsal)
    (waited : rehearsal.waitForSignal = some next) : Rehearses relayer drive next := by
  have due : Signal.Outside drive .due := trivial
  unfold Rehearsal.waitForSignal at waited
  split at waited
  case h_1 => cases waited
  case h_2 ticker signals clock =>
    cases waited
    exact (rehearses.step due).alike rfl rfl rfl
  case h_3 time signal rest ticker signals clock =>
    split at waited
    · cases waited
      exact (rehearses.takes signals).alike rfl rfl rfl
    · cases waited
      exact (rehearses.step due).alike rfl rfl rfl
  case h_4 time signal rest signals clock =>
    cases waited
    exact (rehearses.takes signals).alike rfl rfl rfl

/-- At every point between jobs a rehearsal has come through a run of the service. -/
theorem Rehearses.runFor (rehearses : Rehearses relayer drive rehearsal) (bound : Nat) :
    Rehearses relayer drive (Rehearsal.runFor bound rehearsal) := by
  induction bound generalizing rehearsal with
  | zero => exact rehearses
  | succ bound ih =>
    have same := rehearses.same
    unfold Rehearsal.runFor
    cases phase : rehearsal.loop.phase with
    | stopped => exact rehearses
    | iterating =>
      obtain ⟨trace, spent, ends⟩ := rehearsal.play_ends relayer.iterateOnce
      rw [same]
      refine ih (Rehearses.iterates ?_ phase ends)
      exact rehearses.alike rfl rfl rfl
    | pinging =>
      obtain ⟨trace, spent, ends⟩ := rehearsal.play_ends relayer.ping
      rw [same]
      refine ih (Rehearses.endsPing ?_ phase ends)
      exact rehearses.alike rfl rfl rfl
    | waiting =>
      cases waited : rehearsal.waitForSignal with
      | none => exact rehearses
      | some next => exact ih (rehearses.waits waited)

theorem signals_outside {timeline : Timeline} (open_ : drive = .interval → timeline.closeAt? = none) :
    ∀ signal ∈ timeline.signals, signal.2.Outside drive := by
  intro signal member
  unfold Timeline.signals at member
  rw [List.mem_mergeSort] at member
  simp only [List.mem_append, List.mem_map] at member
  rcases member with (⟨time, -, rfl⟩ | ⟨time, -, rfl⟩) | ⟨time, closes, rfl⟩
  · trivial
  · trivial
  · cases drive with
    | interval => simp [open_ rfl] at closes
    | events => rfl

/-- Every rehearsal is a run of the service: one with the loop of its end. -/
theorem rehearsal_runs (relayer : Relayer) (stage : Stage) (ticker? : Option Ticker)
    (timeline : Timeline) (open_ : ticker?.isSome = true → timeline.closeAt? = none) :
    ∃ past service,
      Runs relayer (if ticker?.isSome then .interval else .events) past service ∧
        service.loop = (Rehearsal.start relayer stage ticker? timeline).run.loop := by
  let drive : Drive := if ticker?.isSome then .interval else .events
  have outside : ∀ signal ∈ timeline.signals, signal.2.Outside drive := by
    apply signals_outside
    cases ticker? with
    | none => simp [drive]
    | some ticker => exact fun _ => open_ rfl
  have initial : Rehearses relayer drive
      { relayer, stage, ticker?, cancelAtPing? := timeline.cancelAtPing?
        signals := timeline.signals, loop := { drive } } :=
    ⟨rfl, outside, [], .start⟩
  have start : Rehearses relayer drive (Rehearsal.start relayer stage ticker? timeline) :=
    initial.handOver 1
  obtain ⟨past, runs⟩ :=
    (start.runFor (Rehearsal.start relayer stage ticker? timeline).stateBound).runs
  refine ⟨past, _, runs, ?_⟩
  unfold Rehearsal.run Rehearsal.finish
  split <;> rfl

end Service

end PriceRelay
