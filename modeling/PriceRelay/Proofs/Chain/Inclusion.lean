import PriceRelay.Chain.Inclusion
import PriceRelay.Proofs.Activity.Observed
/-!
What waiting for a receipt shows: a receipt was looked up, or the lookups overran the limit.
-/

namespace PriceRelay

namespace Task

variable {α : Type} {next : Task α} {trace : List (Exchange world)} {elapsed delay : Millis}
  {result : α}

theorem ends_after_iff :
    (Task.after delay next).Ends trace elapsed result ↔
      ∃ rest, elapsed = delay + rest ∧ next.Ends trace rest result := by
  unfold after
  by_cases none : delay = 0
  · simp [none]
  · rw [if_neg none, Activity.ends_sleep_iff]

/-- While an answer takes its time nothing is asked. -/
theorem ends_settle {timed : Timed α} {answer : Except Failure α}
    (ends : (Task.settle timed).Ends trace elapsed answer) :
    trace = [] ∧ answer = timed.answer := by
  obtain ⟨remaining, -, finished⟩ := ends_after_iff.mp ends
  obtain ⟨rfl, -, rfl⟩ := Activity.ends_done_iff.mp finished
  exact ⟨rfl, rfl⟩

end Task

namespace Inclusion

open Activity

variable {rpc : Rpc} {hash : Hash} {interval limit elapsed : Millis}
  {trace : List (Exchange world)}

theorem observed_poll_some {lookups : Nat} {receipt : Receipt}
    (observed : (poll rpc hash interval lookups).Observed trace (some receipt)) :
    (rpc.request (.receipt hash)).Observed trace (.ok (some receipt)) := by
  induction lookups with
  | zero => cases observed_done_iff.mp observed
  | succ lookups ih =>
    obtain ⟨answer, asked, rest⟩ := observed_bind observed
    have later : (Task.after interval (poll rpc hash interval lookups)).Observed trace
        (some receipt) → (rpc.request (.receipt hash)).Observed trace (.ok (some receipt)) := by
      rintro ⟨part, elapsed, sub, ends⟩
      obtain ⟨remaining, rfl, onward⟩ := Task.ends_after_iff.mp ends
      exact ih ⟨part, remaining, sub, onward⟩
    match answer with
    | .ok (some found) =>
      cases observed_done_iff.mp rest
      exact asked
    | .ok none => exact later rest
    | .error _ => exact later rest

theorem ends_poll_none {lookups : Nat}
    (ends : (poll rpc hash interval lookups).Ends trace elapsed none) :
    lookups * interval ≤ elapsed := by
  induction lookups generalizing trace elapsed with
  | zero => simp
  | succ lookups ih =>
    obtain ⟨before, after, early, late, answer, rfl, rfl, asked, rest⟩ := ends_bind_iff.mp ends
    have later : (Task.after interval (poll rpc hash interval lookups)).Ends after late none →
        (lookups + 1) * interval ≤ early + late := by
      intro pausing
      obtain ⟨remaining, rfl, onward⟩ := Task.ends_after_iff.mp pausing
      have fewer := ih onward
      rw [Nat.add_one_mul]
      exact Nat.le_trans (Nat.add_comm .. ▸ Nat.add_le_add_left fewer interval)
        (Nat.le_add_left _ early)
    match answer with
    | .ok (some found) => cases (ends_done_iff.mp rest).2.2
    | .ok none => exact later rest
    | .error _ => exact later rest

theorem lookupBound_mul (positive : 0 < interval) (limit : Millis) :
    limit < lookupBound interval limit * interval := by
  rw [lookupBound, if_neg (Nat.pos_iff_ne_zero.mp positive)]
  exact (Nat.div_lt_iff_lt_mul positive).mp (Nat.lt_succ_self _)

/-- Waiting ends in a receipt that was looked up. -/
theorem observed_wait_ok {receipt : Receipt}
    (observed : (wait rpc hash interval limit).Observed trace (.ok receipt)) :
    (rpc.request (.receipt hash)).Observed trace (.ok (some receipt)) := by
  obtain ⟨found, waited, last⟩ := observed_bind observed
  match found with
  | some (some other) =>
    cases observed_done_iff.mp last
    exact observed_poll_some (observed_of_within_some waited)
  | some none => cases observed_done_iff.mp last
  | none => cases observed_done_iff.mp last

/-- Waiting ends without a receipt where looking it up overran the limit, or never paused. -/
theorem observed_wait_error {failure : Failure}
    (observed : (wait rpc hash interval limit).Observed trace (.error failure)) :
    (poll rpc hash interval (lookupBound interval limit)).Overran limit trace ∨
      interval = 0 ∧ (poll rpc hash interval (lookupBound interval limit)).Observed trace none := by
  obtain ⟨found, waited, last⟩ := observed_bind observed
  match found with
  | some (some other) => cases observed_done_iff.mp last
  | none => exact .inl (overran_of_within_none waited)
  | some none =>
    obtain ⟨part, elapsed, sub, ends⟩ := waited
    obtain ⟨polled, inTime⟩ := ends_of_within_some ends
    rcases Nat.eq_zero_or_pos interval with pauseless | positive
    · exact .inr ⟨pauseless, part, elapsed, sub, polled⟩
    · -- With pauses the lookups run out later than the limit, so they did not run out.
      have short := Nat.le_trans (ends_poll_none polled) inTime
      exact absurd (lookupBound_mul positive limit) (Nat.not_lt_of_le short)

theorem not_overran_wait : ¬(wait rpc hash interval limit).Overran limit trace := by
  intro overran
  have waiting := overran_bind (by
    intro found
    match found with
    | some (some receipt) => exact ⟨_, rfl⟩
    | some none => exact ⟨_, rfl⟩
    | none => exact ⟨_, rfl⟩) overran
  obtain ⟨part, sub, overruns⟩ := waiting
  exact not_overruns_within overruns

end Inclusion

end PriceRelay
