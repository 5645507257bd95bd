import PriceRelay.Proofs.Activity.History
/-!
Programs that are carried out by services. A course of such a program is one of the services after
another, and behind it stands a course of the program itself with the results of the services.
-/

namespace PriceRelay.Activity

variable {I J : Interface} {α : Type} {service : (question : I.Ask) → Activity J (I.Reply question)}

/-- Services answer calls one after another, each in its part of a trace. -/
inductive Serves (service : (question : I.Ask) → Activity J (I.Reply question)) :
    List (Exchange I) → List (Exchange J) → Prop where
  | nil : Serves service [] []
  | cons {call : Exchange I} {calls : List (Exchange I)} {part rest : List (Exchange J)}
      {elapsed : Millis} (answered : (service call.question).Ends part elapsed call.reply)
      (later : Serves service calls rest) : Serves service (call :: calls) (part ++ rest)

theorem ends_carryOut {activity : Activity I α} {trace : List (Exchange J)} {elapsed : Millis}
    {result : α} (ends : (activity.carryOut service).Ends trace elapsed result) :
    ∃ calls spent, activity.Ends calls spent result ∧ Serves service calls trace := by
  induction activity generalizing trace elapsed with
  | done value =>
    obtain ⟨rfl, rfl, rfl⟩ := ends_done_iff.mp ends
    exact ⟨[], 0, .done result, .nil⟩
  | ask question next ih =>
    obtain ⟨part, rest, early, late, reply, rfl, rfl, answered, onward⟩ := ends_bind_iff.mp ends
    obtain ⟨calls, spent, own, served⟩ := ih reply onward
    exact ⟨⟨question, reply⟩ :: calls, spent, .ask reply own, .cons answered served⟩
  | sleep duration next ih =>
    obtain ⟨remaining, rfl, onward⟩ := ends_sleep_iff.mp ends
    obtain ⟨calls, spent, own, served⟩ := ih onward
    exact ⟨calls, duration + spent, .sleep duration own, served⟩

theorem Ends.carryOut {activity : Activity I α} {calls : List (Exchange I)} {spent : Millis}
    {result : α} (ends : activity.Ends calls spent result) {trace : List (Exchange J)}
    (served : Serves service calls trace) :
    ∃ elapsed, (activity.carryOut service).Ends trace elapsed result := by
  induction ends generalizing trace with
  | done result =>
    cases served
    exact ⟨0, .done result⟩
  | ask reply rest ih =>
    cases served with
    | cons answered later =>
      obtain ⟨elapsed, onward⟩ := ih later
      exact ⟨_, ends_bind_iff.mpr ⟨_, _, _, _, reply, rfl, rfl, answered, onward⟩⟩
  | sleep duration rest ih =>
    obtain ⟨elapsed, onward⟩ := ih served
    exact ⟨duration + elapsed, .sleep duration onward⟩

theorem Serves.part {calls : List (Exchange I)} {trace : List (Exchange J)}
    (served : Serves service calls trace) {call : Exchange I} (member : call ∈ calls) :
    ∃ part elapsed, (service call.question).Ends part elapsed call.reply ∧ part ⊆ trace := by
  induction served with
  | nil => cases member
  | cons answered later ih =>
    rcases List.mem_cons.mp member with rfl | among
    · exact ⟨_, _, answered, List.subset_append_left _ _⟩
    · obtain ⟨part, elapsed, own, within⟩ := ih among
      exact ⟨part, elapsed, own, List.subset_append_of_subset_right _ within⟩

end PriceRelay.Activity
