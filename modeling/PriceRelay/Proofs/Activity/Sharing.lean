import PriceRelay.Proofs.Activity.Limits
/-!
Activities side by side share a trace: each exchange belongs to one of them, and the time that
passes, passes for both. Side by side they run on until one of them ends and hands over.
-/

namespace PriceRelay

/-- A list that is put together from two others, each in its own order. -/
inductive Interleaved {α : Type} : List α → List α → List α → Prop where
  | nil : Interleaved [] [] []
  | left (item : α) {left right whole : List α} (rest : Interleaved left right whole) :
      Interleaved (item :: left) right (item :: whole)
  | right (item : α) {left right whole : List α} (rest : Interleaved left right whole) :
      Interleaved left (item :: right) (item :: whole)

namespace Interleaved

variable {α : Type} {left right whole left' right' whole' : List α}

theorem append (first : Interleaved left right whole) (second : Interleaved left' right' whole') :
    Interleaved (left ++ left') (right ++ right') (whole ++ whole') := by
  induction first with
  | nil => exact second
  | left item _ ih => exact .left item ih
  | right item _ ih => exact .right item ih

theorem left_only (list : List α) : Interleaved list [] list := by
  induction list with
  | nil => exact .nil
  | cons item _ ih => exact .left item ih

theorem right_only (list : List α) : Interleaved [] list list := by
  induction list with
  | nil => exact .nil
  | cons item _ ih => exact .right item ih

theorem left_sublist (parts : Interleaved left right whole) : left.Sublist whole := by
  induction parts with
  | nil => exact .slnil
  | left item _ ih => exact .cons_cons item ih
  | right item _ ih => exact .cons item ih

theorem right_sublist (parts : Interleaved left right whole) : right.Sublist whole := by
  induction parts with
  | nil => exact .slnil
  | left item _ ih => exact .cons item ih
  | right item _ ih => exact .cons_cons item ih

end Interleaved

namespace Activity

variable {I : Interface} {α β γ : Type}

/-- Two activities get through a trace together, each through its own part of it. -/
def Shares (left : Activity I α) (right : Activity I β) (trace : List (Exchange I))
    (elapsed : Millis) (left' : Activity I α) (right' : Activity I β) : Prop :=
  ∃ own other, Interleaved own other trace ∧ left.Reaches own elapsed left' ∧
    right.Reaches other elapsed right'

section

variable {left left' left'' : Activity I α} {right right' right'' : Activity I β}
  {trace more : List (Exchange I)} {elapsed spent : Millis}

theorem shares_here (left : Activity I α) (right : Activity I β) :
    left.Shares right [] 0 left right :=
  ⟨[], [], .nil, .here left, .here right⟩

theorem Shares.trans (first : left.Shares right trace elapsed left' right')
    (second : left'.Shares right' more spent left'' right'') :
    left.Shares right (trace ++ more) (elapsed + spent) left'' right'' := by
  obtain ⟨own, other, parts, leftWalk, rightWalk⟩ := first
  obtain ⟨own', other', parts', leftOn, rightOn⟩ := second
  exact ⟨own ++ own', other ++ other', parts.append parts', leftWalk.trans leftOn,
    rightWalk.trans rightOn⟩

theorem Reaches.shares_left (walk : left.Reaches trace 0 left') (right : Activity I β) :
    left.Shares right trace 0 left' right :=
  ⟨trace, [], .left_only trace, walk, .here right⟩

theorem Reaches.shares_right (left : Activity I α) (walk : right.Reaches trace 0 right') :
    left.Shares right trace 0 left right' :=
  ⟨[], trace, .right_only trace, .here left, walk⟩

theorem Reaches.shares_time (leftWalk : left.Reaches [] elapsed left')
    (rightWalk : right.Reaches [] elapsed right') :
    left.Shares right [] elapsed left' right' :=
  ⟨[], [], .nil, leftWalk, rightWalk⟩

end

variable {onLeft : α → Activity I β → Activity I γ} {onRight : β → Activity I α → Activity I γ}

section

variable {left left' : Activity I α} {right right' : Activity I β} {rest : Activity I γ}
  {trace more : List (Exchange I)} {elapsed spent : Millis}

/-- Two activities side by side run on, or one of them has ended and handed over. -/
inductive Handover (onLeft : α → Activity I β → Activity I γ)
    (onRight : β → Activity I α → Activity I γ) (left : Activity I α) (right : Activity I β)
    (trace : List (Exchange I)) (elapsed : Millis) (rest : Activity I γ) : Prop where
  | running {left' : Activity I α} {right' : Activity I β}
      (walk : left.Shares right trace elapsed left' right')
      (same : rest = beside onLeft onRight left' right')
  | left {result : α} {right' : Activity I β} {before after : List (Exchange I)}
      {early late : Millis} (split : trace = before ++ after) (time : elapsed = early + late)
      (walk : left.Shares right before early (.done result) right')
      (onward : (onLeft result right').Reaches after late rest)
  | right {result : β} {left' : Activity I α} {before after : List (Exchange I)}
      {early late : Millis} (split : trace = before ++ after) (time : elapsed = early + late)
      (walk : left.Shares right before early left' (.done result))
      (onward : (onRight result left').Reaches after late rest)

theorem Handover.after (walk : left.Shares right trace elapsed left' right')
    (handover : Handover onLeft onRight left' right' more spent rest) :
    Handover onLeft onRight left right (trace ++ more) (elapsed + spent) rest := by
  cases handover with
  | running onward same => exact .running (walk.trans onward) same
  | left split time ended onward =>
    subst split time
    exact .left (List.append_assoc ..).symm (Nat.add_assoc ..).symm (walk.trans ended) onward
  | right split time ended onward =>
    subst split time
    exact .right (List.append_assoc ..).symm (Nat.add_assoc ..).symm (walk.trans ended) onward

theorem handover_here (left : Activity I α) (right : Activity I β) :
    Handover onLeft onRight left right [] 0 (beside onLeft onRight left right) :=
  .running (shares_here left right) rfl

end

theorem beside_sleep (duration other : Millis) (next : Activity I α) (nextRight : Activity I β) :
    beside onLeft onRight (.sleep duration next) (.sleep other nextRight) =
      if duration ≤ other then
        .sleep duration (beside onLeft onRight next (.sleep (other - duration) nextRight))
      else
        .sleep other (beside onLeft onRight (.sleep (duration - other) next) nextRight) := rfl

section

variable {left : Activity I α} {right : Activity I β} {rest : Activity I γ}
  {trace : List (Exchange I)} {elapsed : Millis}

/-- One question of two activities goes to one of them. -/
theorem handover_ask {question : I.Ask} {next : I.Reply question → Activity I γ}
    (walk : (Activity.ask question next).Reaches trace elapsed rest)
    (same : Activity.ask question next = beside onLeft onRight left right)
    (onward : ∀ reply {trace elapsed rest}, (next reply).Reaches trace elapsed rest →
      ∃ left' right', left.Shares right [⟨question, reply⟩] 0 left' right' ∧
        Handover onLeft onRight left' right' trace elapsed rest) :
    Handover onLeft onRight left right trace elapsed rest := by
  cases walk with
  | here =>
    rw [same]
    exact handover_here left right
  | ask reply walk =>
    obtain ⟨left', right', asked, handover⟩ := onward reply walk
    simpa using handover.after asked

theorem handover_sleep {duration : Millis} {next : Activity I γ}
    (walk : (Activity.sleep duration next).Reaches trace elapsed rest)
    (same : Activity.sleep duration next = beside onLeft onRight left right)
    (onward : ∀ {trace elapsed rest}, next.Reaches trace elapsed rest →
      ∃ left' right', left.Shares right [] duration left' right' ∧
        Handover onLeft onRight left' right' trace elapsed rest)
    (dozing : ∀ part remaining, duration = part + remaining →
      ∃ left' right', left.Shares right [] part left' right' ∧
        Activity.sleep remaining next = beside onLeft onRight left' right') :
    Handover onLeft onRight left right trace elapsed rest := by
  cases walk with
  | here =>
    rw [same]
    exact handover_here left right
  | sleep _ walk =>
    obtain ⟨left', right', slept, handover⟩ := onward walk
    exact handover.after slept
  | doze _ remaining =>
    obtain ⟨left', right', slept, dozed⟩ := dozing elapsed remaining rfl
    exact .running slept dozed

/-- Two activities side by side run on until one of them hands over. -/
theorem handover_beside (walk : (beside onLeft onRight left right).Reaches trace elapsed rest) :
    Handover onLeft onRight left right trace elapsed rest := by
  -- The right activity moves only while the left one sleeps, so its induction stands inside.
  induction left generalizing right trace elapsed rest with
  | done result =>
    exact .left (List.nil_append trace).symm (Nat.zero_add _).symm (shares_here _ _) walk
  | ask question next ih =>
    apply handover_ask walk rfl
    intro reply trace elapsed rest walk
    exact ⟨next reply, right, (Reaches.ask reply (.here _)).shares_left right, ih reply walk⟩
  | sleep duration next ih =>
    induction right generalizing duration trace elapsed rest with
    | done result =>
      exact .right (List.nil_append trace).symm (Nat.zero_add _).symm (shares_here _ _) walk
    | ask question nextRight ihRight =>
      apply handover_ask walk rfl
      intro reply trace elapsed rest walk
      exact ⟨.sleep duration next, nextRight reply,
        Reaches.shares_right _ (Reaches.ask reply (.here _)), ihRight reply duration walk⟩
    | sleep other nextRight ihRight =>
      rw [beside_sleep] at walk
      split at walk
      case isTrue sooner =>
        apply handover_sleep walk (by rw [beside_sleep, if_pos sooner])
        · intro trace elapsed rest walk
          exact ⟨next, .sleep (other - duration) nextRight,
            (reaches_sleep duration next).shares_time (reaches_doze nextRight sooner), ih walk⟩
        · rintro part remaining rfl
          have fits : remaining ≤ other - part := Nat.le_sub_of_add_le' sooner
          refine ⟨.sleep remaining next, .sleep (other - part) nextRight,
            (Reaches.doze part remaining).shares_time
              (reaches_doze nextRight (Nat.le_of_add_right_le sooner)), ?_⟩
          rw [beside_sleep, if_pos fits, Nat.sub_sub]
      case isFalse later =>
        have sooner : other < duration := Nat.lt_of_not_le later
        apply handover_sleep walk (by rw [beside_sleep, if_neg later])
        · intro trace elapsed rest walk
          exact ⟨.sleep (duration - other) next, nextRight,
            (reaches_doze next (Nat.le_of_lt sooner)).shares_time
              (reaches_sleep other nextRight), ihRight (duration - other) walk⟩
        · rintro part remaining rfl
          have fits : ¬duration - part ≤ remaining := by
            rw [Nat.sub_le_iff_le_add']
            exact later
          refine ⟨.sleep (duration - part) next, .sleep remaining nextRight,
            (reaches_doze next (Nat.le_of_lt (Nat.lt_of_add_right_lt sooner))).shares_time
              (Reaches.doze part remaining), ?_⟩
          rw [beside_sleep, if_neg fits, Nat.sub_sub]

end

end Activity

end PriceRelay
