import PriceRelay.Proofs.Activity.AnyOf
/-!
Activities in a world that answers each question in one way. What takes part in a race there goes on
to the end that it would have had alone, so the ends of those that race decide on the race.
-/

namespace PriceRelay

/-- A world that answers each question in one way, whenever it is asked. -/
def Host.answering {I : Interface} (answers : (question : I.Ask) → I.Reply question) :
    Host I Unit where
  answer question state := (answers question, state)

namespace Activity

variable {I : Interface} {α ε : Type} {answers : (question : I.Ask) → I.Reply question}
  {activity rest : Activity I α} {trace : List (Exchange I)} {elapsed : Millis}

/-- Every reply is the one that the question is answered with. -/
def AnsweredBy (answers : (question : I.Ask) → I.Reply question) (trace : List (Exchange I)) :
    Prop :=
  ∀ exchange ∈ trace, exchange.reply = answers exchange.question

theorem history_answered (answers : (question : I.Ask) → I.Reply question)
    (activity : Activity I α) :
    AnsweredBy answers (activity.history (.answering answers) ()) := by
  intro exchange member
  obtain ⟨_, same⟩ := reply_of_mem_history member
  exact same

/-- How an activity ends that has such a world for itself. -/
def alone (answers : (question : I.Ask) → I.Reply question) (activity : Activity I α) :
    Completion α :=
  let run := activity.run (.answering answers) ()
  ⟨run.elapsed, run.result⟩

theorem alone_sleep (duration : Millis) :
    (Activity.sleep duration activity).alone answers =
      ⟨duration + (activity.alone answers).time, (activity.alone answers).result⟩ := by
  have slept := activity.runFrom_eq (.answering answers) () (0 + duration)
  rw [Nat.zero_add] at slept
  simp [alone, run, runFrom, slept]

/-- From wherever it got to with those answers, an activity goes on to the end it has alone. -/
theorem Reaches.alone_eq (walk : activity.Reaches trace elapsed rest)
    (answered : AnsweredBy answers trace) :
    activity.alone answers =
      ⟨elapsed + (rest.alone answers).time, (rest.alone answers).result⟩ := by
  induction walk with
  | here activity => rw [Nat.zero_add]
  | ask reply onward ih =>
    obtain ⟨own, later⟩ := List.forall_mem_cons.mp answered
    have same : reply = answers _ := own
    subst same
    exact ih later
  | sleep duration onward ih => rw [alone_sleep, ih answered, Nat.add_assoc]
  | doze part remaining => rw [alone_sleep, alone_sleep, Nat.add_assoc]

theorem Ends.alone_eq {result : α} (ends : activity.Ends trace elapsed result)
    (answered : AnsweredBy answers trace) : activity.alone answers = ⟨elapsed, result⟩ :=
  (reaches_done_iff.mpr ends).alone_eq answered

theorem StandsAt.completes_alone {now : Millis} {standing : Standing I α}
    (stands : StandsAt now activity standing) (answered : AnsweredBy answers standing.part) :
    standing.Completes (activity.alone answers) := by
  rw [stands.walk.alone_eq answered]
  exact Standing.completes_run (.answering answers) () standing

theorem Contest.completes_alone {activities : List (Activity I α)} {now : Millis}
    {standings : List (Standing I α)} (contest : Contest now activities trace standings)
    (answered : AnsweredBy answers trace) :
    List.Forall₂ Standing.Completes standings (activities.map (alone answers)) := by
  induction contest with
  | nil => exact .nil
  | cons parts stands _ ih =>
    refine .cons (stands.completes_alone ?_) (ih ?_)
    · intro exchange member
      exact answered exchange (parts.left_sublist.subset member)
    · intro exchange member
      exact answered exchange (parts.right_sublist.subset member)

def Completion.ending (completion : Completion (Except ε α)) : Millis × Bool :=
  (completion.time, completion.result.toBool)

section

variable {InTime : Millis → Prop} {completions : List (Completion (Except ε α))}
  {endings : List (Millis × Bool)} {Won : α → Prop} {Lost Late : Prop}

/-- What takes part is decided on as each of them ends alone. -/
theorem Decided.alone {ι : Type} {items : List ι} {entrant : ι → Activity I (Except ε α)}
    {ItemEnds : ι → Completion (Except ε α) → Prop}
    (decided : Decided InTime items entrant ItemEnds trace elapsed Won Lost Late)
    (answered : AnsweredBy answers trace) (endings : List (Millis × Bool))
    (seen : (items.map fun item => ((entrant item).alone answers).ending) = endings)
    (distinct : (endings.map Prod.fst).Nodup) :
    ∃ completions, List.Forall₂ ItemEnds items completions ∧
      completions.map Completion.ending = endings ∧ AnyOf InTime completions Won Lost Late := by
  obtain ⟨standings, contest, law⟩ := decided
  subst seen
  have times : (((items.map entrant).map (Activity.alone answers)).map Completion.time).Nodup := by
    simpa [Function.comp_def, Completion.ending] using distinct
  obtain ⟨ends, anyOf⟩ := law _ (contest.completes_alone answered) times
  exact ⟨_, ends, by simp, anyOf⟩

theorem AnyOf.won_of_ending (law : AnyOf InTime completions Won Lost Late)
    (seen : completions.map Completion.ending = endings) {time : Millis}
    (member : (time, true) ∈ endings) (inTime : InTime time)
    (earliest : ∀ ending ∈ endings, ending.2 = true → time ≤ ending.1) :
    ∃ first ∈ completions, first.time = time ∧ ∃ result, first.result = .ok result ∧
      Won result := by
  subst seen
  obtain ⟨first, among, same⟩ := List.mem_map.mp member
  obtain ⟨rfl, success⟩ := Prod.mk.inj same
  cases ended : first.result with
  | error reason =>
    rw [ended] at success
    cases success
  | ok result =>
    refine ⟨first, among, rfl, result, ended,
      (law.won_iff result).mpr ⟨first, among, ended, inTime, ?_⟩⟩
    intro other others value won
    exact earliest _ (List.mem_map_of_mem others) (by rw [Completion.ending, won]; rfl)

theorem AnyOf.lost_of_endings (law : AnyOf InTime completions Won Lost Late)
    (seen : completions.map Completion.ending = endings)
    (failed : ∀ ending ∈ endings, InTime ending.1 ∧ ending.2 = false) : Lost := by
  subst seen
  refine law.lost_iff.mpr fun each member => ?_
  obtain ⟨inTime, failure⟩ := failed _ (List.mem_map_of_mem member)
  refine ⟨inTime, ?_⟩
  cases ended : each.result with
  | error reason => exact ⟨reason, rfl⟩
  | ok result =>
    rw [Completion.ending, ended] at failure
    cases failure

theorem AnyOf.late_of_endings (law : AnyOf InTime completions Won Lost Late)
    (seen : completions.map Completion.ending = endings)
    (unbeaten : ∀ ending ∈ endings, ending.2 = true → ¬InTime ending.1)
    (pending : ∃ ending ∈ endings, ¬InTime ending.1) : Late := by
  subst seen
  refine law.late_iff.mpr ⟨?_, ?_⟩
  · intro each member value success
    exact unbeaten _ (List.mem_map_of_mem member) (by rw [Completion.ending, success]; rfl)
  · obtain ⟨_, member, late⟩ := pending
    obtain ⟨each, among, rfl⟩ := List.mem_map.mp member
    exact ⟨each, among, late⟩

end

end Activity

end PriceRelay
