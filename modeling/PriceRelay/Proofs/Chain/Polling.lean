import Mathlib.Data.Nat.Find
import PriceRelay.Proofs.Activity.InTime
import PriceRelay.Proofs.Chain.Inclusion
import PriceRelay.Rehearsal.Stage
/-!
Polling for a receipt. The first receipt that comes within the limit is the result, and nothing is
looked up after it. An absent receipt or a failure does not end the polling, the limit does.
-/

namespace PriceRelay

namespace Activity

variable {State α : Type} {host : Host world State} {state : State} {delay limit : Millis}

theorem passage_within_after (next : Task α) (fits : delay ≤ limit) :
    (within limit (Task.after delay next)).passage host state =
      (Passage.paused delay).followedBy ((within (limit - delay) next).passage host state) := by
  unfold Task.after
  by_cases instant : delay = 0
  · subst instant
    simp [Passage.followedBy, Passage.paused]
  · rw [if_neg instant, within_sleep, if_pos fits, passage_sleep]

theorem passage_within_after_of_lt (next : Task α) (late : limit < delay) :
    (within limit (Task.after delay next)).passage host state = ⟨[], limit, none⟩ := by
  have lasts : delay ≠ 0 := Nat.ne_zero_of_lt late
  rw [Task.after, if_neg lasts, within_sleep, if_neg (Nat.not_le_of_lt late), passage_sleep,
    passage_done]
  rfl

/-- What only changes the result takes no time and no exchange. -/
theorem passage_bind_done {β : Type} (first : Task α) (make : α → β) :
    (first.bind fun value => .done (make value)).passage host state =
      ⟨(first.passage host state).trace, (first.passage host state).elapsed,
        make (first.passage host state).result⟩ := by
  rw [passage_bind, passage_done]
  simp [Passage.followedBy, passage]

end Activity

namespace Inclusion

open Activity Passage

/-- What waiting makes of what was found within the limit. -/
def settled (hash : Hash) (limit : Millis) : Option (Option Receipt) → Except Failure Receipt
  | some (some receipt) => .ok receipt
  | _ => .error (timedOut hash limit)

/-- Wait with a number of lookups at most. -/
def waitFor (most : Nat) (rpc : Rpc) (hash : Hash) (interval limit : Millis) : Attempt Receipt :=
  (within limit (poll rpc hash interval most)).bind fun found => .done (settled hash limit found)

theorem wait_eq (rpc : Rpc) (hash : Hash) (interval limit : Millis) :
    wait rpc hash interval limit =
      waitFor (lookupBound interval limit) rpc hash interval limit := by
  rw [wait, waitFor]
  congr 1
  funext found
  match found with
  | some (some receipt) => rfl
  | some none => rfl
  | none => rfl

/-- What polling does after an answer. -/
def goOn (interval : Millis) (next : Task (Option Receipt)) :
    Except Failure (Option Receipt) → Task (Option Receipt)
  | .ok (some receipt) => .done (some receipt)
  | _ => Task.after interval next

theorem goOn_misses {interval : Millis} {next : Task (Option Receipt)}
    {answer : Except Failure (Option Receipt)} (misses : ∀ receipt, answer ≠ .ok (some receipt)) :
    goOn interval next answer = Task.after interval next := by
  match answer with
  | .ok (some receipt) => exact absurd rfl (misses receipt)
  | .ok none => rfl
  | .error failure => rfl

theorem poll_succ (rpc : Rpc) (hash : Hash) (interval : Millis) (most : Nat) :
    poll rpc hash interval (most + 1) =
      (rpc.request (.receipt hash)).bind (goOn interval (poll rpc hash interval most)) := by
  rw [poll]
  congr 1
  funext answer
  match answer with
  | .ok (some receipt) => rfl
  | .ok none => rfl
  | .error failure => rfl

/-- The lookups of a receipt in a world, one after another. -/
structure Lookups (State : Type) where
  host : Host world State
  rpc : Rpc
  hash : Hash
  /-- The world before the first lookup. -/
  start : State

namespace Lookups

variable {State : Type}

/-- The world after some lookups. -/
def after (lookups : Lookups State) : Nat → State
  | 0 => lookups.start
  | count + 1 =>
    ((lookups.rpc.request (.receipt lookups.hash)).run lookups.host (lookups.after count)).state

def reply (lookups : Lookups State) (count : Nat) :
    Passage world (Except Failure (Option Receipt)) :=
  (lookups.rpc.request (.receipt lookups.hash)).passage lookups.host (lookups.after count)

/-- What the first lookups reply. -/
def replies (lookups : Lookups State) (count : Nat) :
    List (Passage world (Except Failure (Option Receipt))) :=
  (List.range count).map lookups.reply

/-- The time of the first lookups, with a pause after each. -/
def spent (lookups : Lookups State) (interval : Millis) (count : Nat) : Millis :=
  total (lookups.replies count) + count * interval

/-- When a lookup is answered, after as many others. -/
def answeredAt (lookups : Lookups State) (interval : Millis) (count : Nat) : Millis :=
  lookups.spent interval count + (lookups.reply count).elapsed

/-- A lookup that is not answered with a receipt. -/
def Misses (lookups : Lookups State) (count : Nat) : Prop :=
  ∀ receipt, (lookups.reply count).result ≠ .ok (some receipt)

/-- The first receipt comes after as many other answers. -/
def Finds (lookups : Lookups State) (count : Nat) (receipt : Receipt) : Prop :=
  (∀ earlier < count, lookups.Misses earlier) ∧
    (lookups.reply count).result = .ok (some receipt)

/-- How waiting ends without a receipt in time. The limit is over in the course of a lookup, or in
the course of a pause. Where no pauses are made and the lookups take no time it is not over, and
they come to an end. -/
inductive TimesOut (lookups : Lookups State) (interval limit : Millis) (most : Nat) :
    Passage world (Except Failure Receipt) → Prop where
  | lookingUp {count : Nat} {part : List (Exchange world)}
      (missed : ∀ earlier < count, lookups.Misses earlier)
      (begun : lookups.spent interval count ≤ limit)
      (late : limit < lookups.answeredAt interval count)
      (started : part <+: (lookups.reply count).trace) :
      TimesOut lookups interval limit most
        ⟨traces (lookups.replies count) ++ part, limit, .error (timedOut lookups.hash limit)⟩
  | pausing {count : Nat} (missed : ∀ earlier ≤ count, lookups.Misses earlier)
      (answered : lookups.answeredAt interval count ≤ limit)
      (late : limit < lookups.spent interval (count + 1)) :
      TimesOut lookups interval limit most
        ⟨traces (lookups.replies (count + 1)), limit, .error (timedOut lookups.hash limit)⟩
  | exhausted (missed : ∀ earlier < most, lookups.Misses earlier) (pauseless : interval = 0)
      (inTime : lookups.spent interval most ≤ limit) :
      TimesOut lookups interval limit most
        ⟨traces (lookups.replies most), lookups.spent interval most,
          .error (timedOut lookups.hash limit)⟩

/-- Polling from some lookups on, within a limit and with a number of lookups at most. -/
def polling (lookups : Lookups State) (interval limit : Millis) (count most : Nat) :
    Passage world (Option (Option Receipt)) :=
  (within limit (poll lookups.rpc lookups.hash interval most)).passage lookups.host
    (lookups.after count)

variable {lookups : Lookups State} {interval limit : Millis} {count most : Nat} {receipt : Receipt}

theorem replies_succ :
    lookups.replies (count + 1) = lookups.replies count ++ [lookups.reply count] := by
  simp [replies, List.range_succ]

theorem spent_zero : lookups.spent interval 0 = 0 := by
  simp [spent, replies, total]

theorem spent_succ :
    lookups.spent interval (count + 1) = lookups.answeredAt interval count + interval := by
  rw [answeredAt, spent, spent, replies_succ, total_concat, Nat.add_one_mul]
  ac_rfl

theorem pauses_le_spent : count * interval ≤ lookups.spent interval count := Nat.le_add_left _ _

theorem polling_succ (answered : (lookups.reply count).elapsed ≤ limit) :
    lookups.polling interval limit count (most + 1) =
      (lookups.reply count).followedBy
        ((within (limit - (lookups.reply count).elapsed)
          (goOn interval (poll lookups.rpc lookups.hash interval most)
            (lookups.reply count).result)).passage lookups.host (lookups.after (count + 1))) := by
  rw [polling, poll_succ]
  exact passage_within_bind _ answered

/-- After a lookup that misses, and its pause, the next one has the rest of the limit. -/
theorem polling_misses (misses : lookups.Misses count)
    (inTime : (lookups.reply count).elapsed + interval ≤ limit) :
    lookups.polling interval limit count (most + 1) =
      (lookups.reply count).followedBy ((paused interval).followedBy
        (lookups.polling interval (limit - ((lookups.reply count).elapsed + interval))
          (count + 1) most)) := by
  rw [polling_succ (Nat.le_trans (Nat.le_add_right _ _) inTime), goOn_misses misses,
    passage_within_after _ (Nat.le_sub_of_add_le' inTime), Nat.sub_sub]
  rfl

theorem polling_finds (found : (lookups.reply count).result = .ok (some receipt))
    (inTime : (lookups.reply count).elapsed ≤ limit) :
    lookups.polling interval limit count (most + 1) =
      ⟨(lookups.reply count).trace, (lookups.reply count).elapsed, some (some receipt)⟩ := by
  rw [polling_succ inTime, found, goOn, passage_within_done]
  simp [followedBy]

theorem polling_pausing (misses : lookups.Misses count)
    (answered : (lookups.reply count).elapsed ≤ limit)
    (late : limit < (lookups.reply count).elapsed + interval) :
    lookups.polling interval limit count (most + 1) =
      ⟨(lookups.reply count).trace, limit, none⟩ := by
  rw [polling_succ answered, goOn_misses misses,
    passage_within_after_of_lt _ (Nat.sub_lt_left_of_lt_add answered late)]
  simp [followedBy, Nat.add_sub_of_le answered]

theorem polling_lookingUp (late : limit < (lookups.reply count).elapsed) :
    ∃ part, part <+: (lookups.reply count).trace ∧
      lookups.polling interval limit count (most + 1) = ⟨part, limit, none⟩ := by
  rw [polling, poll_succ]
  exact passage_within_bind_of_lt _ late

/-- Lookups that miss take their time, and those behind them have the rest of the limit. -/
theorem polling_skips (missed : ∀ earlier < count, lookups.Misses earlier)
    (inTime : lookups.spent interval count ≤ limit) :
    lookups.polling interval limit 0 (count + most) =
      (⟨traces (lookups.replies count), lookups.spent interval count, ()⟩ :
        Passage world Unit).followedBy
          (lookups.polling interval (limit - lookups.spent interval count) count most) := by
  -- The last of the lookups that miss is the first of those that the others leave.
  induction count generalizing most with
  | zero => simp [followedBy, replies, traces, spent_zero]
  | succ count ih =>
    rw [spent_succ, answeredAt, Nat.add_assoc] at inTime
    have begun := Nat.le_trans (Nat.le_add_right _ _) inTime
    have earlier : ∀ earlier < count, lookups.Misses earlier := fun earlier before =>
      missed earlier (Nat.lt_succ_of_lt before)
    rw [Nat.add_right_comm, Nat.add_assoc, ih earlier begun,
      polling_misses (missed count (Nat.lt_succ_self count)) (Nat.le_sub_of_add_le' inTime),
      spent_succ, answeredAt, replies_succ, traces_concat, Nat.sub_sub]
    simp [followedBy, paused, Nat.add_assoc]

/-- Waiting, as it is seen. -/
theorem waitFor_passage :
    (waitFor most lookups.rpc lookups.hash interval limit).passage lookups.host lookups.start =
      ⟨(lookups.polling interval limit 0 most).trace,
        (lookups.polling interval limit 0 most).elapsed,
        settled lookups.hash limit (lookups.polling interval limit 0 most).result⟩ :=
  passage_bind_done _ _

theorem lt_lookupBound (positive : 0 < interval) (begun : lookups.spent interval count ≤ limit) :
    count < lookupBound interval limit := by
  have pauses : count * interval ≤ limit := Nat.le_trans pauses_le_spent begun
  exact Nat.lt_of_mul_lt_mul_right (Nat.lt_of_le_of_lt pauses (lookupBound_mul positive limit))

theorem waitFor_finds (finds : lookups.Finds count receipt) (made : count < most)
    (inTime : lookups.answeredAt interval count ≤ limit) :
    (waitFor most lookups.rpc lookups.hash interval limit).passage lookups.host lookups.start =
      ⟨traces (lookups.replies (count + 1)), lookups.answeredAt interval count, .ok receipt⟩ := by
  obtain ⟨more, rfl⟩ := Nat.exists_eq_add_of_lt made
  obtain ⟨missed, found⟩ := finds
  have begun := Nat.le_trans (Nat.le_add_right _ _) inTime
  rw [waitFor_passage, Nat.add_assoc, polling_skips missed begun,
    polling_finds found (Nat.le_sub_of_add_le' inTime), replies_succ, traces_concat]
  rfl

theorem timesOut_lookingUp (made : count < most)
    (missed : ∀ earlier < count, lookups.Misses earlier)
    (begun : lookups.spent interval count ≤ limit)
    (late : limit < lookups.answeredAt interval count) :
    lookups.TimesOut interval limit most
      ((waitFor most lookups.rpc lookups.hash interval limit).passage lookups.host
        lookups.start) := by
  obtain ⟨more, rfl⟩ := Nat.exists_eq_add_of_lt made
  have overrun : limit - lookups.spent interval count < (lookups.reply count).elapsed :=
    Nat.sub_lt_left_of_lt_add begun late
  obtain ⟨part, started, stopped⟩ : ∃ part, part <+: (lookups.reply count).trace ∧
      lookups.polling interval (limit - lookups.spent interval count) count (more + 1) =
        ⟨part, limit - lookups.spent interval count, none⟩ := polling_lookingUp overrun
  rw [waitFor_passage, Nat.add_assoc, polling_skips missed begun, stopped]
  simp only [followedBy, Nat.add_sub_of_le begun]
  exact .lookingUp missed begun late started

theorem timesOut_pausing (made : count < most) (missed : ∀ earlier ≤ count, lookups.Misses earlier)
    (answered : lookups.answeredAt interval count ≤ limit)
    (late : limit < lookups.spent interval (count + 1)) :
    lookups.TimesOut interval limit most
      ((waitFor most lookups.rpc lookups.hash interval limit).passage lookups.host
        lookups.start) := by
  obtain ⟨more, rfl⟩ := Nat.exists_eq_add_of_lt made
  have begun := Nat.le_trans (Nat.le_add_right _ _) answered
  have overrun : limit - lookups.spent interval count <
      (lookups.reply count).elapsed + interval := by
    rw [spent_succ, answeredAt, Nat.add_assoc] at late
    exact Nat.sub_lt_left_of_lt_add begun late
  rw [waitFor_passage, Nat.add_assoc,
    polling_skips (fun earlier before => missed earlier (Nat.le_of_lt before)) begun,
    polling_pausing (missed count (Nat.le_refl count)) (Nat.le_sub_of_add_le' answered) overrun]
  simp only [followedBy, Nat.add_sub_of_le begun, ← traces_concat, ← replies_succ]
  exact .pausing missed answered late

theorem timesOut_exhausted (missed : ∀ earlier < most, lookups.Misses earlier)
    (pauseless : interval = 0) (inTime : lookups.spent interval most ≤ limit) :
    lookups.TimesOut interval limit most
      ((waitFor most lookups.rpc lookups.hash interval limit).passage lookups.host
        lookups.start) := by
  have ended : lookups.polling interval (limit - lookups.spent interval most) most 0 =
      ⟨[], 0, some none⟩ := passage_within_done none
  have skipped : lookups.polling interval limit 0 (most + 0) = _ := polling_skips missed inTime
  rw [Nat.add_zero] at skipped
  rw [waitFor_passage, skipped, ended]
  simp only [followedBy, List.append_nil, Nat.add_zero]
  exact .exhausted missed pauseless inTime

theorem misses_of_answered (late : ∀ count receipt, lookups.Finds count receipt →
      limit < lookups.answeredAt interval count)
    (answered : ∀ earlier < count, lookups.answeredAt interval earlier ≤ limit) :
    ∀ earlier < count, lookups.Misses earlier := by
  intro earlier
  induction earlier using Nat.strongRecOn with
  | ind earlier ih =>
    intro less receipt found
    have missed : ∀ other < earlier, lookups.Misses other := fun other smaller =>
      ih other smaller (Nat.lt_trans smaller less)
    exact absurd (late earlier receipt ⟨missed, found⟩) (Nat.not_lt_of_le (answered earlier less))

/-- Without a receipt in time waiting is stopped. -/
theorem timesOut (enough : lookupBound interval limit ≤ most)
    (late : ∀ count receipt, lookups.Finds count receipt →
      limit < lookups.answeredAt interval count) :
    lookups.TimesOut interval limit most
      ((waitFor most lookups.rpc lookups.hash interval limit).passage lookups.host
        lookups.start) := by
  -- The first lookup that is not made, or not answered in time.
  have stops : ∃ count, limit < lookups.answeredAt interval count ∨ most ≤ count :=
    ⟨most, .inr (Nat.le_refl most)⟩
  obtain ⟨count, stop, before⟩ : ∃ count,
      (limit < lookups.answeredAt interval count ∨ most ≤ count) ∧
        ∀ earlier < count, lookups.answeredAt interval earlier ≤ limit ∧ earlier < most := by
    refine ⟨Nat.find stops, Nat.find_spec stops, ?_⟩
    intro earlier less
    exact ⟨Nat.le_of_not_lt fun exceeds => Nat.find_min stops less (.inl exceeds),
      Nat.lt_of_not_le fun unmade => Nat.find_min stops less (.inr unmade)⟩
  have missed := misses_of_answered late fun earlier less => (before earlier less).1
  rcases Nat.lt_or_ge limit (lookups.spent interval count) with overrun | begun
  · cases count with
    | zero => exact absurd overrun (by simp [spent_zero])
    | succ count =>
      obtain ⟨answered, made⟩ := before count (Nat.lt_succ_self count)
      exact timesOut_pausing made (fun earlier less => missed earlier (Nat.lt_succ_of_le less))
        answered overrun
  -- It could begin: either it is made and comes late, or no more lookups are allowed, and then
  -- there are no pauses.
  · rcases Nat.lt_trichotomy count most with made | rfl | beyond
    · exact timesOut_lookingUp made missed begun (stop.resolve_right (Nat.not_le_of_lt made))
    · rcases Nat.eq_zero_or_pos interval with pauseless | positive
      · exact timesOut_exhausted missed pauseless begun
      · exact absurd enough (Nat.not_le_of_lt (lt_lookupBound positive begun))
    · exact absurd (before most beyond).2 (Nat.lt_irrefl most)

theorem Finds.unique {other : Nat} {another : Receipt} (finds : lookups.Finds count receipt)
    (again : lookups.Finds other another) : other = count := by
  rcases Nat.lt_trichotomy other count with less | same | more
  · exact absurd again.2 (finds.1 other less another)
  · exact same
  · exact absurd finds.2 (again.1 count more receipt)

theorem TimesOut.result {waiting : Passage world (Except Failure Receipt)}
    (timesOut : lookups.TimesOut interval limit most waiting) :
    waiting.result = .error (timedOut lookups.hash limit) := by
  cases timesOut <;> rfl

end Lookups

/-- The law of waiting, for every world, pause and limit. The first receipt that comes no later than
the limit is the result, when it comes, and nothing is looked up after it: however many lookups are
allowed, if it is among them. Where none comes in time, waiting times out. With pauses the lookups
that are answered within the limit are all among those that waiting allows. -/
theorem wait_firstReceipt {State : Type} (lookups : Lookups State) (interval limit : Millis) :
    let waiting := fun most =>
      (waitFor most lookups.rpc lookups.hash interval limit).passage lookups.host lookups.start
    (∀ count receipt, lookups.Finds count receipt → lookups.answeredAt interval count ≤ limit →
      ∀ most, count < most →
        waiting most = ⟨traces (lookups.replies (count + 1)), lookups.answeredAt interval count,
          .ok receipt⟩) ∧
    ((∀ count receipt, lookups.Finds count receipt → limit < lookups.answeredAt interval count) →
      ∀ most, lookupBound interval limit ≤ most →
        (waiting most).result = .error (timedOut lookups.hash limit) ∧
        lookups.TimesOut interval limit most (waiting most)) ∧
    wait lookups.rpc lookups.hash interval limit =
      waitFor (lookupBound interval limit) lookups.rpc lookups.hash interval limit ∧
    ∀ count, 0 < interval → lookups.answeredAt interval count ≤ limit →
      count < lookupBound interval limit := by
  intro waiting
  refine ⟨?_, ?_, wait_eq _ _ _ _, ?_⟩
  · intro count receipt finds inTime most made
    exact Lookups.waitFor_finds finds made inTime
  · intro late most enough
    have stopped := Lookups.timesOut enough late
    exact ⟨stopped.result, stopped⟩
  · intro count positive inTime
    exact Lookups.lt_lookupBound positive (Nat.le_trans (Nat.le_add_right _ _) inTime)

def mined : Receipt := ⟨FixedBytes.ofNat 32 3, true, some 9, some 0, 1, 3⟩

def lookupsOf (answers : List (Timed NodeLine)) : Lookups Stage :=
  { host := Stage.host
    rpc := Rpc.node 0
    hash := mined.hash
    start := { nodes := [{ script := [("receipt", answers)] }] } }

/-- No receipt, a failure after 4 ms, and a receipt after 3 ms. -/
def thirdTime : Lookups Stage :=
  lookupsOf [⟨0, .ok .nothing⟩, ⟨4, .error (.text "busy")⟩, ⟨3, .ok (.receipt mined)⟩]

def thirdTimeWaiting (limit : Millis) : Passage world (Except Failure Receipt) :=
  (wait thirdTime.rpc thirdTime.hash 10 limit).passage thirdTime.host thirdTime.start

theorem thirdTime_finds : thirdTime.Finds 2 mined := by
  have nothing : (thirdTime.reply 0).result = .ok none := by rfl
  have busy : (thirdTime.reply 1).result = .error (.text "busy") := by rfl
  refine ⟨?_, by rfl⟩
  intro earlier less receipt found
  rcases Nat.le_one_iff_eq_zero_or_eq_one.mp (Nat.le_of_lt_succ less) with rfl | rfl
  · rw [nothing] at found
    cases found
  · rw [busy] at found
    cases found

/-- The receipt comes after 27 ms: a limit of 27 ms finds it, one of 26 ms does not. -/
theorem wait_firstReceipt_thirdTime :
    (thirdTime.Finds 2 mined ∧ thirdTime.answeredAt 10 2 = 27 ∧
      thirdTimeWaiting 27 = ⟨traces (thirdTime.replies 3), 27, .ok mined⟩) ∧
    ((∀ count receipt, thirdTime.Finds count receipt → 26 < thirdTime.answeredAt 10 count) ∧
      (thirdTimeWaiting 26).result = .error (timedOut mined.hash 26)) := by
  have answered : thirdTime.answeredAt 10 2 = 27 := by decide +kernel
  have late : ∀ count receipt, thirdTime.Finds count receipt →
      26 < thirdTime.answeredAt 10 count := by
    intro count receipt finds
    rw [thirdTime_finds.unique finds, answered]
    decide
  refine ⟨⟨thirdTime_finds, answered, ?_⟩, late, ?_⟩
  · obtain ⟨found, -, same, within⟩ := wait_firstReceipt thirdTime 10 27
    have inTime := Nat.le_of_eq answered
    have seen := found 2 mined thirdTime_finds inTime _ (within 2 (by decide) inTime)
    rw [answered] at seen
    rw [thirdTimeWaiting, same]
    exact seen
  · obtain ⟨-, stopped, same, -⟩ := wait_firstReceipt thirdTime 10 26
    rw [thirdTimeWaiting, same]
    exact (stopped late _ (Nat.le_refl _)).1

def slowReceipt : Lookups Stage := lookupsOf [⟨10, .ok (.receipt mined)⟩]

theorem slowReceipt_finds : slowReceipt.Finds 0 mined := by
  refine ⟨?_, by rfl⟩
  intro earlier less
  exact absurd less (Nat.not_lt_zero earlier)

/-- A receipt need not come before the limit: one that comes after 10 ms is found within 10 ms. -/
theorem wait_not_below :
    ¬∀ (lookups : Lookups Stage) (interval limit : Millis),
      (∀ count receipt, lookups.Finds count receipt → limit ≤ lookups.answeredAt interval count) →
      ((wait lookups.rpc lookups.hash interval limit).passage lookups.host lookups.start).result =
        .error (timedOut lookups.hash limit) := by
  intro below
  have answered : slowReceipt.answeredAt 5 0 = 10 := by decide +kernel
  have found : ((wait slowReceipt.rpc slowReceipt.hash 5 10).passage slowReceipt.host
      slowReceipt.start).result = .ok mined := by rfl
  have failed := below slowReceipt 5 10 fun count receipt finds => by
    rw [slowReceipt_finds.unique finds, answered]
  rw [found] at failed
  cases failed

end Inclusion

end PriceRelay
