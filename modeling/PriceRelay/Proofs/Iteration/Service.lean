import PriceRelay.Iteration.Loop
import PriceRelay.Proofs.Iteration.Silence
import PriceRelay.Proofs.Lists
/-!
A relayer at work in its loop. Signals arrive at any time, the loop looks around when it waits, and
what it has begun goes on by itself, with any answers. Whatever comes in whatever order, one job is
under way at most, and each iteration is followed by its sign of life.
-/

namespace PriceRelay

/-- A signal from outside. A clock does not end. -/
def Signal.Outside (drive : Drive) : Signal → Prop
  | .cancelled | .due => True
  | .closed => drive = .events
  | .iterationEnded | .pingEnded => False

/-- What the loop waits for, with what it has asked so far and the time that it took. -/
inductive Job where
  | iteration (record : List (Exchange world)) (spent : Millis) (rest : Task (Task Unit))
  | ping (record : List (Exchange world)) (spent : Millis) (rest : Task Unit)

/-- A job goes on. -/
inductive Job.Goes : Job → Job → Prop where
  | iteration {record trace : List (Exchange world)} {spent elapsed : Millis}
      {rest later : Task (Task Unit)} (onward : rest.Reaches trace elapsed later) :
      Goes (.iteration record spent rest) (.iteration (record ++ trace) (spent + elapsed) later)
  | ping {record trace : List (Exchange world)} {spent elapsed : Millis}
      {rest later : Task Unit} (onward : rest.Reaches trace elapsed later) :
      Goes (.ping record spent rest) (.ping (record ++ trace) (spent + elapsed) later)

/-- A loop with the jobs that it has begun. -/
structure Service where
  loop : Loop
  jobs : List Job := []

/-- What happens to a service. -/
inductive Happening where
  | arrived (signal : Signal)
  /-- The loop has looked around, and is in that phase now. -/
  | turned (phase : Phase)
  | worked
  | iterated (record : List (Exchange world)) (spent : Millis)
  | pinged (record : List (Exchange world)) (spent : Millis)

namespace Happening

def isBegin : Happening → Bool
  | .turned .iterating => true
  | _ => false

def isIterated : Happening → Bool
  | .iterated .. => true
  | _ => false

def isPinged : Happening → Bool
  | .pinged .. => true
  | _ => false

def record : Happening → List (Exchange world)
  | .iterated record _ | .pinged record _ => record
  | .arrived _ | .turned _ | .worked => []

end Happening

namespace Service

/-- The jobs that a phase begins with. -/
def begun (relayer : Relayer) : Phase → List Job
  | .iterating => [.iteration [] 0 relayer.iterateOnce]
  | .pinging => [.ping [] 0 relayer.ping]
  | .waiting | .stopped => []

/-- The loop moves on. In a new phase it begins what there is to do. -/
def move (relayer : Relayer) (service : Service) (loop : Loop) : Service where
  loop := loop
  jobs := service.jobs ++
    if service.loop.phase = loop.phase then [] else begun relayer loop.phase

inductive Step (relayer : Relayer) : Service → Happening → Service → Prop where
  | arrives {service : Service} {signal : Signal} (outside : signal.Outside service.loop.drive) :
      Step relayer service (.arrived signal)
        { service with loop := service.loop.receive signal }
  | turns {service : Service} (waiting : service.loop.phase = .waiting) :
      Step relayer service (.turned service.loop.turn.phase)
        (service.move relayer service.loop.turn)
  | works {loop : Loop} {before after : List Job} {job later : Job} (goes : job.Goes later) :
      Step relayer ⟨loop, before ++ job :: after⟩ .worked ⟨loop, before ++ later :: after⟩
  | iterates {loop : Loop} {before after : List Job} {record : List (Exchange world)}
      {spent : Millis} {watch : Task Unit} :
      Step relayer ⟨loop, before ++ .iteration record spent (.done watch) :: after⟩
        (.iterated record spent)
        (move relayer ⟨loop, before ++ after⟩ (loop.receive .iterationEnded))
  | pings {loop : Loop} {before after : List Job} {record : List (Exchange world)}
      {spent : Millis} {result : Unit} :
      Step relayer ⟨loop, before ++ .ping record spent (.done result) :: after⟩
        (.pinged record spent)
        (move relayer ⟨loop, before ++ after⟩ (loop.receive .pingEnded))

/-- A run from the start, with what has happened so far, latest first. -/
inductive Runs (relayer : Relayer) (drive : Drive) : List Happening → Service → Prop where
  | start : Runs relayer drive [] { loop := { drive } }
  | step {past : List Happening} {service after : Service} {now : Happening}
      (runs : Runs relayer drive past service) (step : Step relayer service now after) :
      Runs relayer drive (now :: past) after

/-- What is under way in a phase. -/
inductive UnderWay (relayer : Relayer) : Phase → List Job → Prop where
  | waiting : UnderWay relayer .waiting []
  | iterating {record : List (Exchange world)} {spent : Millis} {rest : Task (Task Unit)}
      (way : relayer.iterateOnce.Reaches record spent rest) :
      UnderWay relayer .iterating [.iteration record spent rest]
  | pinging {record : List (Exchange world)} {spent : Millis} {rest : Task Unit}
      (way : relayer.ping.Reaches record spent rest) :
      UnderWay relayer .pinging [.ping record spent rest]
  | stopped : UnderWay relayer .stopped []

/-- Iterations that were begun, iterations that have ended, and signs of life, by phase. -/
def Balanced (phase : Phase) (past : List Happening) : Prop :=
  past.countP Happening.isBegin = past.countP Happening.isIterated +
      (if phase = .iterating then 1 else 0) ∧
    past.countP Happening.isIterated = past.countP Happening.isPinged +
      (if phase = .pinging then 1 else 0)

/-- The flags of a loop tell what has happened. -/
structure Flagged (drive : Drive) (past : List Happening) (loop : Loop) : Prop where
  driven : loop.drive = drive
  cancelled : loop.isCancelled = true ↔ .arrived .cancelled ∈ past
  closed : loop.isClosed = true → drive = .events ∧ .arrived .closed ∈ past

/-- What holds at every point of a run. -/
structure Sound (relayer : Relayer) (drive : Drive) (past : List Happening) (service : Service) :
    Prop where
  flagged : Flagged drive past service.loop
  underWay : UnderWay relayer service.loop.phase service.jobs
  balanced : Balanced service.loop.phase past

section

variable {relayer : Relayer} {drive : Drive} {past : List Happening} {service after : Service}
  {now : Happening} {loop moved : Loop}

/-- Flags that did not change tell the same after anything but a signal. -/
theorem Flagged.keeps (flagged : Flagged drive past loop) (quiet : ∀ signal, now ≠ .arrived signal)
    (same : moved.drive = loop.drive ∧ moved.isCancelled = loop.isCancelled ∧
      moved.isClosed = loop.isClosed) : Flagged drive (now :: past) moved := by
  obtain ⟨driven, cancelled, closed⟩ := flagged
  obtain ⟨sameDrive, sameCancelled, sameClosed⟩ := same
  have new : ∀ signal, Happening.arrived signal ∈ now :: past ↔ .arrived signal ∈ past := by
    intro signal
    rw [List.mem_cons]
    exact or_iff_right (Ne.symm (quiet signal))
  refine ⟨sameDrive.trans driven, ?_, ?_⟩
  · rw [sameCancelled, cancelled, new]
  · rw [sameClosed, new]
    exact closed

theorem Flagged.receive {signal : Signal} (flagged : Flagged drive past loop)
    (outside : signal.Outside loop.drive) :
    Flagged drive (.arrived signal :: past) (loop.receive signal) := by
  obtain ⟨driven, cancelled, closed⟩ := flagged
  cases signal with
  | cancelled => exact ⟨driven, by simp [Loop.receive], by simpa [Loop.receive] using closed⟩
  | due =>
    exact ⟨driven, by simpa [Loop.receive] using cancelled, by simpa [Loop.receive] using closed⟩
  | closed =>
    have events : drive = .events := driven.symm.trans outside
    exact ⟨driven, by simpa [Loop.receive] using cancelled, fun _ => ⟨events, by simp⟩⟩
  | iterationEnded => cases outside
  | pingEnded => cases outside

theorem receive_phase {signal : Signal} (outside : signal.Outside loop.drive) :
    (loop.receive signal).phase = loop.phase := by
  cases signal <;> first | rfl | cases outside

theorem turn_flags : loop.turn.drive = loop.drive ∧
    loop.turn.isCancelled = loop.isCancelled ∧ loop.turn.isClosed = loop.isClosed := by
  unfold Loop.turn
  repeat' split
  all_goals exact ⟨rfl, rfl, rfl⟩

theorem turn_phase (waiting : loop.phase = .waiting) :
    (loop.turn.phase = .stopped ∧ (loop.isCancelled = true ∨
        loop.isClosed = true ∧ loop.pending = 0)) ∨
      (loop.turn.phase = .iterating ∧ loop.isCancelled = false) ∨ loop.turn.phase = .waiting := by
  rw [Loop.turn, if_pos waiting]
  by_cases cancelled : loop.isCancelled = true
  · exact .inl ⟨by rw [if_pos cancelled], .inl cancelled⟩
  · rw [if_neg cancelled]
    by_cases due : 0 < loop.pending
    · exact .inr (.inl ⟨by rw [if_pos due], eq_false_of_ne_true cancelled⟩)
    · rw [if_neg due]
      by_cases closed : loop.isClosed = true
      · exact .inl ⟨by rw [if_pos closed], .inr ⟨closed, Nat.eq_zero_of_not_pos due⟩⟩
      · exact .inr (.inr (by rw [if_neg closed]; exact waiting))

theorem receive_pingEnded (pinging : loop.phase = .pinging) :
    (loop.receive .pingEnded).phase = .waiting ∧
      (loop.receive .pingEnded).drive = loop.drive ∧
      (loop.receive .pingEnded).isCancelled = loop.isCancelled ∧
      (loop.receive .pingEnded).isClosed = loop.isClosed := by
  simp [Loop.receive, pinging]

theorem turn_cancelled (waiting : loop.phase = .waiting) (cancelled : loop.isCancelled = true) :
    loop.turn.phase = .stopped := by
  rw [Loop.turn, if_pos waiting, if_pos cancelled]

theorem underWay_begun (relayer : Relayer) (phase : Phase) :
    UnderWay relayer phase (begun relayer phase) := by
  cases phase with
  | waiting => exact .waiting
  | iterating => exact .iterating (.here _)
  | pinging => exact .pinging (.here _)
  | stopped => exact .stopped

theorem move_turn (relayer : Relayer) (waiting : service.loop.phase = .waiting)
    (idle : service.jobs = []) :
    service.move relayer service.loop.turn =
      ⟨service.loop.turn, begun relayer service.loop.turn.phase⟩ := by
  rw [move, idle, List.nil_append, waiting]
  split
  case isTrue same => rw [← same, begun]
  case isFalse => rfl

theorem move_iterationEnded {jobs : List Job} (iterating : loop.phase = .iterating)
    (idle : jobs = []) :
    move relayer ⟨loop, jobs⟩ (loop.receive .iterationEnded) =
      ⟨{ loop with phase := .pinging }, begun relayer .pinging⟩ := by
  simp [move, Loop.receive, iterating, idle]

theorem move_pingEnded {jobs : List Job} (pinging : loop.phase = .pinging) (idle : jobs = []) :
    move relayer ⟨loop, jobs⟩ (loop.receive .pingEnded) = ⟨loop.receive .pingEnded, []⟩ := by
  simp [move, Loop.receive, pinging, idle, begun]

theorem UnderWay.goes {phase : Phase} {before rest : List Job} {job later : Job}
    (underWay : UnderWay relayer phase (before ++ job :: rest)) (goes : job.Goes later) :
    UnderWay relayer phase (before ++ later :: rest) := by
  generalize same : before ++ job :: rest = jobs at underWay
  cases underWay with
  | waiting => simp at same
  | stopped => simp at same
  | iterating way =>
    obtain ⟨rfl, rfl, rfl⟩ := split_single same.symm
    cases goes with
    | iteration onward => exact .iterating (way.trans onward)
  | pinging way =>
    obtain ⟨rfl, rfl, rfl⟩ := split_single same.symm
    cases goes with
    | ping onward => exact .pinging (way.trans onward)

/-- An iteration that has ended was the only job, and the loop was busy with it. -/
theorem UnderWay.iterated {phase : Phase} {before rest : List Job}
    {record : List (Exchange world)} {spent : Millis} {task : Task (Task Unit)}
    (underWay : UnderWay relayer phase (before ++ .iteration record spent task :: rest)) :
    phase = .iterating ∧ before ++ rest = [] ∧
      relayer.iterateOnce.Reaches record spent task := by
  generalize same : before ++ .iteration record spent task :: rest = jobs at underWay
  cases underWay with
  | waiting => simp at same
  | stopped => simp at same
  | iterating way =>
    obtain ⟨rfl, only, rfl⟩ := split_single same.symm
    cases only
    exact ⟨rfl, rfl, way⟩
  | pinging way =>
    obtain ⟨rfl, only, rfl⟩ := split_single same.symm
    cases only

theorem UnderWay.pinged {phase : Phase} {before rest : List Job}
    {record : List (Exchange world)} {spent : Millis} {task : Task Unit}
    (underWay : UnderWay relayer phase (before ++ .ping record spent task :: rest)) :
    phase = .pinging ∧ before ++ rest = [] ∧ relayer.ping.Reaches record spent task := by
  generalize same : before ++ .ping record spent task :: rest = jobs at underWay
  cases underWay with
  | waiting => simp at same
  | stopped => simp at same
  | iterating way =>
    obtain ⟨rfl, only, rfl⟩ := split_single same.symm
    cases only
  | pinging way =>
    obtain ⟨rfl, only, rfl⟩ := split_single same.symm
    cases only
    exact ⟨rfl, rfl, way⟩

theorem UnderWay.idle {jobs : List Job} (underWay : UnderWay relayer .waiting jobs) :
    jobs = [] := by
  cases underWay
  rfl

theorem sound_start : Sound relayer drive [] { loop := { drive } } where
  flagged := ⟨rfl, by simp, by simp⟩
  underWay := .waiting
  balanced := ⟨rfl, rfl⟩

theorem Sound.step (sound : Sound relayer drive past service)
    (step : Step relayer service now after) : Sound relayer drive (now :: past) after := by
  obtain ⟨flagged, underWay, balanced⟩ := sound
  cases step with
  | @arrives _ signal outside =>
    have same := receive_phase outside
    refine ⟨flagged.receive outside, ?_, ?_⟩
    · rw [same]
      exact underWay
    · rw [same]
      exact balanced
  | turns waiting =>
    rw [waiting] at underWay balanced
    rw [move_turn relayer waiting underWay.idle]
    refine ⟨flagged.keeps (by simp) turn_flags, underWay_begun .., ?_⟩
    rcases turn_phase waiting with ⟨phase, _⟩ | ⟨phase, _⟩ | phase <;> rw [phase]
    all_goals simpa [Balanced, List.countP_cons, Happening.isBegin, Happening.isIterated,
      Happening.isPinged] using balanced
  | works goes => exact ⟨flagged.keeps (by simp) ⟨rfl, rfl, rfl⟩, underWay.goes goes, balanced⟩
  | @iterates loop before rest record spent watch =>
    obtain ⟨(iterating : loop.phase = .iterating), idle, -⟩ := underWay.iterated
    rw [move_iterationEnded iterating idle]
    refine ⟨flagged.keeps (by simp) ⟨rfl, rfl, rfl⟩, underWay_begun .., ?_⟩
    rw [iterating] at balanced
    simpa [Balanced, List.countP_cons, Happening.isBegin, Happening.isIterated,
      Happening.isPinged] using balanced
  | @pings loop before rest record spent result =>
    obtain ⟨(pinging : loop.phase = .pinging), idle, -⟩ := underWay.pinged
    obtain ⟨phase, flags⟩ := receive_pingEnded pinging
    rw [move_pingEnded pinging idle]
    refine ⟨flagged.keeps (by simp) flags, ?_, ?_⟩
    · rw [phase]
      exact .waiting
    · rw [pinging] at balanced
      rw [phase]
      simpa [Balanced, List.countP_cons, Happening.isBegin, Happening.isIterated,
        Happening.isPinged] using balanced

/-- What holds at the start and after every step holds in every run. -/
theorem Runs.sound (runs : Runs relayer drive past service) :
    Sound relayer drive past service := by
  induction runs with
  | start => exact sound_start
  | step _ step ih => exact ih.step step

theorem UnderWay.length_le {phase : Phase} {jobs : List Job}
    (underWay : UnderWay relayer phase jobs) : jobs.length ≤ 1 := by
  cases underWay <;> simp

/-- What may happen next in a run. An iteration begins alone, and not after a cancellation. The loop
stops with everything done, after a cancellation or at the end of all notifications. What ends has
ended by itself: an iteration with an outcome, before its sign of life, and that in time. -/
def Permitted (relayer : Relayer) (drive : Drive) (past : List Happening) (service after : Service) :
    Happening → Prop
  | .arrived _ => after.loop.phase = service.loop.phase ∧ after.jobs = service.jobs
  | .worked => after.loop = service.loop
  | .turned .waiting => after.loop.phase = .waiting ∧ after.jobs = []
  | .turned .iterating =>
    after.loop.phase = .iterating ∧ service.jobs = [] ∧ after.jobs = begun relayer .iterating ∧
      .arrived .cancelled ∉ past
  | .turned .pinging => False
  | .turned .stopped =>
    after.loop.phase = .stopped ∧ service.jobs = [] ∧ after.jobs = [] ∧
      past.countP Happening.isPinged = past.countP Happening.isBegin ∧
      (.arrived .cancelled ∈ past ∨
        drive = .events ∧ .arrived .closed ∈ past ∧ service.loop.pending = 0)
  | .iterated record spent =>
    after.loop.phase = .pinging ∧ after.jobs = begun relayer .pinging ∧
      relayer.Iterated record spent
  | .pinged record spent =>
    after.loop.phase = .waiting ∧ after.jobs = [] ∧
      record.countP Relayer.isPing = 1 ∧ spent ≤ relayer.pingLimit

theorem Sound.permits (sound : Sound relayer drive past service)
    (step : Step relayer service now after) : Permitted relayer drive past service after now := by
  obtain ⟨⟨driven, cancelled, closed⟩, underWay, balanced⟩ := sound
  cases step with
  | arrives outside => exact ⟨receive_phase outside, rfl⟩
  | works goes => exact rfl
  | turns waiting =>
    rw [waiting] at underWay balanced
    have done : past.countP Happening.isPinged = past.countP Happening.isBegin :=
      (balanced.1.trans balanced.2).symm
    rw [move_turn relayer waiting underWay.idle]
    rcases turn_phase waiting with ⟨next, reason⟩ | ⟨next, running⟩ | next <;> rw [next]
    · refine ⟨next, underWay.idle, rfl, done, ?_⟩
      rcases reason with stop | ⟨ended, drained⟩
      · exact .inl (cancelled.mp stop)
      · obtain ⟨events, arrived⟩ := closed ended
        exact .inr ⟨events, arrived, drained⟩
    · refine ⟨next, underWay.idle, rfl, ?_⟩
      rw [← cancelled, running]
      exact Bool.false_ne_true
    · exact ⟨next, rfl⟩
  | @iterates loop before rest record spent watch =>
    obtain ⟨(iterating : loop.phase = .iterating), idle, way⟩ := underWay.iterated
    have ended := Relayer.iterateOnce_ends (Activity.reaches_done_iff.mp way)
    rw [move_iterationEnded iterating idle]
    exact ⟨rfl, rfl, ended⟩
  | @pings loop before rest record spent result =>
    obtain ⟨(pinging : loop.phase = .pinging), idle, way⟩ := underWay.pinged
    obtain ⟨once, inTime⟩ := Relayer.ping_ends (Activity.reaches_done_iff.mp way)
    rw [move_pingEnded pinging idle]
    exact ⟨(receive_pingEnded pinging).1, rfl, once, inTime⟩

theorem Runs.signs (runs : Runs relayer drive past service) (silent : relayer.Silent) :
    (past.flatMap Happening.record).countP Relayer.isPing = past.countP Happening.isPinged := by
  induction runs with
  | start => rfl
  | @step past service after now runs step ih =>
    have permitted := runs.sound.permits step
    rw [List.flatMap_cons, List.countP_append, ih, List.countP_cons, Nat.add_comm]
    congr 1
    cases now with
    | arrived signal => rfl
    | turned phase => rfl
    | worked => rfl
    | iterated record spent => exact permitted.2.2.silent silent
    | pinged record spent => exact permitted.2.2.1

/-- The service waits with nothing under way. Once cancelled, it stops when it looks around. -/
structure Rests (relayer : Relayer) (drive : Drive) (past : List Happening) (service : Service) :
    Prop where
  runs : Runs relayer drive past service
  waiting : service.loop.phase = .waiting
  idle : service.jobs = []
  stops : .arrived .cancelled ∈ past → service.loop.turn.phase = .stopped

/-- A job runs on to its end, with any answers, an iteration with its sign of life. -/
def Finishes (relayer : Relayer) (drive : Drive) (past : List Happening) : Job → Prop
  | .iteration record spent rest =>
    ∀ trace elapsed watch course time, rest.Ends trace elapsed watch →
      relayer.ping.Ends course time () →
      ∃ after, Rests relayer drive (.pinged course time :: .worked ::
        .iterated (record ++ trace) (spent + elapsed) :: .worked :: past) after
  | .ping record spent rest =>
    ∀ trace elapsed, rest.Ends trace elapsed () →
      ∃ after, Rests relayer drive (.pinged (record ++ trace) (spent + elapsed) :: .worked :: past)
        after

theorem Runs.finishes_ping {record : List (Exchange world)} {spent : Millis} {rest : Task Unit}
    (runs : Runs relayer drive past ⟨loop, [.ping record spent rest]⟩) :
    Finishes relayer drive past (.ping record spent rest) := by
  intro trace elapsed ends
  have underWay : UnderWay relayer loop.phase ([] ++ [.ping record spent rest]) :=
    runs.sound.underWay
  obtain ⟨pinging, -, -⟩ := underWay.pinged
  have worked := runs.step (@Step.works relayer loop [] [] _ _
    (.ping (Activity.reaches_done_iff.mpr ends)))
  have pinged := worked.step (@Step.pings relayer loop [] [] _ _ _)
  rw [List.nil_append, move_pingEnded pinging rfl] at pinged
  refine ⟨_, pinged, (receive_pingEnded pinging).1, rfl, ?_⟩
  intro cancelled
  exact turn_cancelled (receive_pingEnded pinging).1 (pinged.sound.flagged.cancelled.mpr cancelled)

theorem Runs.finishes_iteration {record : List (Exchange world)} {spent : Millis}
    {rest : Task (Task Unit)}
    (runs : Runs relayer drive past ⟨loop, [.iteration record spent rest]⟩) :
    Finishes relayer drive past (.iteration record spent rest) := by
  intro trace elapsed watch course time ends lives
  have underWay : UnderWay relayer loop.phase ([] ++ [.iteration record spent rest]) :=
    runs.sound.underWay
  obtain ⟨iterating, -, -⟩ := underWay.iterated
  have worked := runs.step (@Step.works relayer loop [] [] _ _
    (.iteration (Activity.reaches_done_iff.mpr ends)))
  have iterated := worked.step (@Step.iterates relayer loop [] [] _ _ _)
  rw [List.nil_append, move_iterationEnded iterating rfl] at iterated
  have finishes := Runs.finishes_ping iterated course time lives
  rw [List.nil_append, Nat.zero_add] at finishes
  exact finishes

/-- Whatever is under way in a run finishes. -/
theorem Runs.finishes (runs : Runs relayer drive past service) {job : Job}
    (member : job ∈ service.jobs) : Finishes relayer drive past job := by
  obtain ⟨loop, jobs⟩ := service
  have few : jobs.length ≤ 1 := runs.sound.underWay.length_le
  obtain ⟨rfl⟩ : jobs = [job] := by
    match jobs, member, few with
    | [only], member, _ => rw [List.mem_singleton.mp member]
  cases job with
  | iteration record spent rest => exact runs.finishes_iteration
  | ping record spent rest => exact runs.finishes_ping

/-- The loop is safe, in every run. One job is under way at most; each iteration that was begun has
ended but the last, and each that has ended has had its sign of life but the last, and no other was
given; nothing happens but what is permitted; and what is under way can run on to its end at any
time. -/
theorem runs_safe (runs : Runs relayer drive past service) :
    service.jobs.length ≤ 1 ∧
      (past.countP Happening.isPinged ≤ past.countP Happening.isIterated ∧
        past.countP Happening.isIterated ≤ past.countP Happening.isBegin ∧
        past.countP Happening.isBegin ≤ past.countP Happening.isPinged + 1) ∧
      (relayer.Silent →
        (past.flatMap Happening.record).countP Relayer.isPing =
          past.countP Happening.isPinged) ∧
      (∀ now after, Step relayer service now after →
        Permitted relayer drive past service after now) ∧
      ∀ job ∈ service.jobs, Finishes relayer drive past job := by
  have sound := runs.sound
  have counts : past.countP Happening.isPinged ≤ past.countP Happening.isIterated ∧
      past.countP Happening.isIterated ≤ past.countP Happening.isBegin ∧
      past.countP Happening.isBegin ≤ past.countP Happening.isPinged + 1 := by
    obtain ⟨begins, iterations⟩ := sound.balanced
    rw [begins, iterations]
    cases service.loop.phase <;> simp
  exact ⟨sound.underWay.length_le, counts, runs.signs, fun _ _ => sound.permits,
    fun _ => runs.finishes⟩

/-- Cancelled during its first iteration, the loop still has that one job, which finishes. -/
theorem runs_safe_cancelledMidway :
    Relayer.ofTwoFeeds.Silent ∧ ∃ service, Runs Relayer.ofTwoFeeds .events
        [.arrived .cancelled, .turned .iterating, .arrived .due] service ∧
      service.jobs = begun Relayer.ofTwoFeeds .iterating ∧
      ∀ job ∈ service.jobs, Finishes Relayer.ofTwoFeeds .events
        [.arrived .cancelled, .turned .iterating, .arrived .due] job := by
  let due : Loop := { drive := .events, pending := 1 }
  let busy : Loop := { drive := .events, phase := .iterating }
  have arrived : Runs Relayer.ofTwoFeeds .events [.arrived .due] { loop := due } :=
    Runs.start.step (.arrives trivial)
  have turned : Runs Relayer.ofTwoFeeds .events [.turned .iterating, .arrived .due]
      ⟨busy, begun Relayer.ofTwoFeeds .iterating⟩ :=
    arrived.step (.turns rfl)
  have cancelled : Runs Relayer.ofTwoFeeds .events
      [.arrived .cancelled, .turned .iterating, .arrived .due]
      ⟨busy.receive .cancelled, begun Relayer.ofTwoFeeds .iterating⟩ :=
    turned.step (.arrives trivial)
  exact ⟨Relayer.ofTwoFeeds_silent, _, cancelled, rfl, (runs_safe cancelled).2.2.2.2⟩

end

end Service

end PriceRelay
