import PriceRelay.Proofs.Activity.Limits
/-!
Runs within a limit. Up to the limit a run goes on as it would without one; at the limit it stops
in the middle of what is under way.
-/

namespace PriceRelay

/-- What is seen of a run: what was asked and replied, the time it took, and its result. -/
structure Passage (I : Interface) (α : Type) where
  trace : List (Exchange I)
  elapsed : Millis
  result : α

namespace Passage

variable {I : Interface} {α β γ : Type}

def followedBy (first : Passage I α) (second : Passage I β) : Passage I β :=
  ⟨first.trace ++ second.trace, first.elapsed + second.elapsed, second.result⟩

def exchanged (exchange : Exchange I) : Passage I Unit := ⟨[exchange], 0, ()⟩

def paused (duration : Millis) : Passage I Unit := ⟨[], duration, ()⟩

/-- What is asked and replied in some runs, one after another. -/
def traces (passages : List (Passage I α)) : List (Exchange I) := passages.flatMap trace

def total : List (Passage I α) → Millis
  | [] => 0
  | passage :: rest => passage.elapsed + total rest

@[simp] theorem elapsed_followedBy (first : Passage I α) (second : Passage I β) :
    (first.followedBy second).elapsed = first.elapsed + second.elapsed := rfl

@[simp] theorem elapsed_exchanged (exchange : Exchange I) : (exchanged exchange).elapsed = 0 := rfl

@[simp] theorem elapsed_paused (duration : Millis) :
    (paused (I := I) duration).elapsed = duration := rfl

theorem followedBy_assoc (first : Passage I α) (second : Passage I β) (third : Passage I γ) :
    (first.followedBy second).followedBy third = first.followedBy (second.followedBy third) := by
  simp [followedBy, Nat.add_assoc]

theorem traces_cons (passage : Passage I α) (rest : List (Passage I α)) :
    traces (passage :: rest) = passage.trace ++ traces rest := rfl

theorem total_cons (passage : Passage I α) (rest : List (Passage I α)) :
    total (passage :: rest) = passage.elapsed + total rest := rfl

theorem traces_concat (passages : List (Passage I α)) (last : Passage I α) :
    traces (passages ++ [last]) = traces passages ++ last.trace := by
  simp [traces]

theorem total_concat (passages : List (Passage I α)) (last : Passage I α) :
    total (passages ++ [last]) = total passages + last.elapsed := by
  induction passages with
  | nil => exact Nat.add_comm last.elapsed 0
  | cons passage rest ih => rw [List.cons_append, total_cons, total_cons, ih, Nat.add_assoc]

end Passage

namespace Activity

variable {I : Interface} {State α β : Type}

/-- The run of an activity, as it is seen. -/
def passage (host : Host I State) (activity : Activity I α) (state : State) : Passage I α :=
  ⟨activity.history host state, (activity.run host state).elapsed, (activity.run host state).result⟩

def inTurn (host : Host I State) : List (Activity I α) → State → List (Passage I α)
  | [], _ => []
  | activity :: rest, state =>
    activity.passage host state :: inTurn host rest (activity.run host state).state

section

variable {host : Host I State} {state : State} {limit : Millis}

theorem passage_done (result : α) :
    (Activity.done result).passage host state = ⟨[], 0, result⟩ := rfl

theorem passage_within_done (result : α) :
    (within limit (.done result : Activity I α)).passage host state = ⟨[], 0, some result⟩ := rfl

theorem passage_ask (question : I.Ask) (next : I.Reply question → Activity I α) :
    (Activity.ask question next).passage host state =
      (Passage.exchanged ⟨question, (host.answer question state).1⟩).followedBy
        ((next (host.answer question state).1).passage host (host.answer question state).2) := by
  simp [passage, Passage.exchanged, Passage.followedBy, history, run, runFrom]

theorem run_sleep (duration : Millis) (next : Activity I α) :
    (Activity.sleep duration next).run host state =
      { next.run host state with elapsed := duration + (next.run host state).elapsed } := by
  rw [run, runFrom, runFrom_eq, Nat.zero_add]

theorem passage_sleep (duration : Millis) (next : Activity I α) :
    (Activity.sleep duration next).passage host state =
      (Passage.paused duration).followedBy (next.passage host state) := by
  simp [passage, Passage.paused, Passage.followedBy, history, run_sleep]

theorem passage_bind (first : Activity I α) (next : α → Activity I β) :
    (first.bind next).passage host state =
      (first.passage host state).followedBy
        ((next (first.run host state).result).passage host (first.run host state).state) := by
  simp [passage, Passage.followedBy, history_bind, run_bind]

/-- What ends in time leaves the rest of the limit to what comes behind. -/
theorem passage_within_bind {first : Activity I α} (next : α → Activity I β)
    (inTime : (first.passage host state).elapsed ≤ limit) :
    (within limit (first.bind next)).passage host state =
      (first.passage host state).followedBy
        ((within (limit - (first.passage host state).elapsed)
          (next (first.run host state).result)).passage host (first.run host state).state) := by
  induction first generalizing state limit with
  | done result => simp [passage_done, run, runFrom, Passage.followedBy]
  | ask question rest ih =>
    rw [passage_ask] at inTime ⊢
    simp only [Passage.elapsed_followedBy, Passage.elapsed_exchanged, Nat.zero_add] at inTime ⊢
    rw [bind, within_ask, passage_ask, ih _ inTime, Passage.followedBy_assoc]
    rfl
  | sleep duration rest ih =>
    rw [passage_sleep] at inTime ⊢
    simp only [Passage.elapsed_followedBy, Passage.elapsed_paused] at inTime ⊢
    have fits : duration ≤ limit := Nat.le_trans (Nat.le_add_right _ _) inTime
    rw [bind, within_sleep, if_pos fits, passage_sleep, ih (Nat.le_sub_of_add_le' inTime),
      Passage.followedBy_assoc, run_sleep, Nat.sub_sub]

/-- What does not end in time is stopped at the limit, and nothing behind it begins. -/
theorem passage_within_bind_of_lt {first : Activity I α} (next : α → Activity I β)
    (late : limit < (first.passage host state).elapsed) :
    ∃ part, part <+: (first.passage host state).trace ∧
      (within limit (first.bind next)).passage host state = ⟨part, limit, none⟩ := by
  induction first generalizing state limit with
  | done result => exact absurd late (Nat.not_lt_zero limit)
  | ask question rest ih =>
    rw [passage_ask] at late ⊢
    simp only [Passage.elapsed_followedBy, Passage.elapsed_exchanged, Nat.zero_add] at late
    obtain ⟨part, started, stopped⟩ := ih _ late
    refine ⟨_ :: part, (List.prefix_cons_inj _).mpr started, ?_⟩
    rw [bind, within_ask, passage_ask, stopped]
    simp [Passage.followedBy, Passage.exchanged]
  | sleep duration rest ih =>
    rw [passage_sleep] at late ⊢
    simp only [Passage.elapsed_followedBy, Passage.elapsed_paused] at late
    rw [bind, within_sleep]
    split
    case isTrue fits =>
      obtain ⟨part, started, stopped⟩ := ih (Nat.sub_lt_left_of_lt_add fits late)
      refine ⟨part, started, ?_⟩
      rw [passage_sleep, stopped]
      simp [Passage.followedBy, Passage.paused, Nat.add_sub_of_le fits]
    case isFalse =>
      refine ⟨[], List.nil_prefix, ?_⟩
      rw [passage_sleep]
      rfl

end

end Activity

end PriceRelay
