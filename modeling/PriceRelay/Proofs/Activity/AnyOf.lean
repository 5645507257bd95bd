import Mathlib.Data.List.Nodup
import PriceRelay.Proofs.Activity.Races
import PriceRelay.Proofs.Lists
/-!
Any of several: what comes of a race depends on nothing but when each of those that take part ends,
and with which result. The end of one that is cut off is wherever it would have gone on to.
-/

namespace PriceRelay.Activity

variable {I : Interface} {State α ε : Type}

/-- When an activity ends, and with which result. -/
structure Completion (α : Type) where
  time : Millis
  result : α

def EndsAs (activity : Activity I α) (completion : Completion α) : Prop :=
  ∃ course, activity.Ends course completion.time completion.result

/-- From where it stands an activity goes on to this end. -/
def Standing.Completes (standing : Standing I α) (completion : Completion α) : Prop :=
  ∃ more spent, standing.rest.Ends more spent completion.result ∧
    completion.time = standing.time + spent

/-- What comes of several activities of which one has to succeed in time: the first success, if it
is in time; a loss once all have failed; and a delay while none has succeeded and some go on. -/
structure AnyOf (InTime : Millis → Prop) (completions : List (Completion (Except ε α)))
    (Won : α → Prop) (Lost Late : Prop) : Prop where
  won_iff : ∀ result, Won result ↔
    ∃ first ∈ completions, first.result = .ok result ∧ InTime first.time ∧
      ∀ other ∈ completions, ∀ value, other.result = .ok value → first.time ≤ other.time
  lost_iff : Lost ↔
    ∀ each ∈ completions, InTime each.time ∧ ∃ reason, each.result = .error reason
  late_iff : Late ↔
    (∀ each ∈ completions, ∀ value, each.result = .ok value → ¬InTime each.time) ∧
      ∃ pending ∈ completions, ¬InTime pending.time

section

variable {standing : Standing I α} {completion : Completion α} {activity : Activity I α}
  {now : Millis}

theorem Standing.Completes.of_done {result : α} (completes : standing.Completes completion)
    (done : standing.rest = .done result) : completion = ⟨standing.time, result⟩ := by
  obtain ⟨more, spent, ends, time⟩ := completes
  rw [done] at ends
  obtain ⟨_, rfl, same⟩ := ends_done_iff.mp ends
  cases completion
  simp_all

theorem Standing.Completes.of_asleep {duration : Millis}
    (completes : standing.Completes completion) (asleep : standing.Asleep duration) :
    standing.time + duration ≤ completion.time := by
  obtain ⟨more, spent, ends, time⟩ := completes
  obtain ⟨longer, next, atLeast, same⟩ := asleep
  rw [same] at ends
  obtain ⟨rest, rfl, _⟩ := ends_sleep_iff.mp ends
  rw [time]
  exact Nat.add_le_add_left (Nat.le_add_right_of_le atLeast) standing.time

/-- In any world an activity goes on to some end. -/
theorem Standing.completes_run (host : Host I State) (state : State) (standing : Standing I α) :
    standing.Completes ⟨standing.time + (standing.rest.run host state).elapsed,
      (standing.rest.run host state).result⟩ :=
  ⟨_, _, run_ends host standing.rest state, rfl⟩

theorem StandsAt.ends (stands : StandsAt now activity standing)
    (completes : standing.Completes completion) : activity.EndsAs completion := by
  obtain ⟨more, spent, ends, time⟩ := completes
  rw [EndsAs, time]
  exact ⟨_, stands.walk.ends ends⟩

end

section

variable {activities : List (Activity I α)} {trace : List (Exchange I)}
  {standings : List (Standing I α)} {completions : List (Completion α)} {now : Millis}

theorem Contest.stands (contest : Contest now activities trace standings) :
    ∀ standing ∈ standings, ∃ activity, StandsAt now activity standing := by
  induction contest with
  | nil => simp
  | cons _ stands _ ih => exact List.forall_mem_cons.mpr ⟨⟨_, stands⟩, ih⟩

theorem Contest.ends (contest : Contest now activities trace standings)
    (completes : List.Forall₂ Standing.Completes standings completions) :
    List.Forall₂ EndsAs activities completions := by
  induction contest generalizing completions with
  | nil =>
    cases completes
    exact .nil
  | cons _ stands _ ih =>
    cases completes with
    | cons own others => exact .cons (stands.ends own) (ih others)

end

theorem exists_completion {standings : List (Standing I α)} {completions : List (Completion α)}
    (completes : List.Forall₂ Standing.Completes standings completions)
    {standing : Standing I α} (member : standing ∈ standings) :
    ∃ completion ∈ completions, standing.Completes completion :=
  exists_beside completes member

theorem exists_standing {standings : List (Standing I α)} {completions : List (Completion α)}
    (completes : List.Forall₂ Standing.Completes standings completions)
    {completion : Completion α} (member : completion ∈ completions) :
    ∃ standing ∈ standings, standing.Completes completion :=
  exists_beside (List.Forall₂.flip (R := flip Standing.Completes) completes) member

section

variable {InTime : Millis → Prop} {now : Millis} {activities : List (Activity I (Except ε α))}
  {trace : List (Exchange I)} {standings : List (Standing I (Except ε α))}
  {state : Activity I (Except ε α)} {completions : List (Completion (Except ε α))}
  {Won : α → Prop} {Lost Late : Prop}

theorem Verdict.success_le (verdict : Verdict now standings state)
    (contest : Contest now activities trace standings)
    (completes : List.Forall₂ Standing.Completes standings completions)
    {completion : Completion (Except ε α)} (member : completion ∈ completions) {value : α}
    (success : completion.result = .ok value) : now ≤ completion.time := by
  obtain ⟨standing, among, own⟩ := exists_standing completes member
  obtain ⟨activity, stands⟩ := contest.stands standing among
  rcases stands.ended with here | ⟨result, done⟩
  · obtain ⟨more, spent, _, time⟩ := own
    rw [time, here]
    exact Nat.le_add_right now spent
  · obtain rfl := own.of_done done
    cases success
    exact Nat.le_of_eq (verdict.unbeaten standing among ⟨value, done⟩).symm

theorem Verdict.anyOf_won {result : α} (verdict : Verdict now standings (.done (.ok result)))
    (contest : Contest now activities trace standings)
    (completes : List.Forall₂ Standing.Completes standings completions)
    (distinct : (completions.map Completion.time).Nodup) (inTime : InTime now)
    (won : ∀ value, Won value ↔ result = value) (lost : ¬Lost) (late : ¬Late) :
    AnyOf InTime completions Won Lost Late := by
  obtain ⟨standing, among, done⟩ := verdict.won result rfl
  obtain ⟨winner, member, own⟩ := exists_completion completes among
  obtain rfl := own.of_done done
  have time : standing.time = now := verdict.unbeaten standing among ⟨result, done⟩
  refine ⟨fun value => (won value).trans ⟨?_, ?_⟩, iff_of_false lost ?_, iff_of_false late ?_⟩
  · rintro rfl
    refine ⟨_, member, rfl, time.symm ▸ inTime, ?_⟩
    intro other otherMember value success
    exact time.symm ▸ verdict.success_le contest completes otherMember success
  · rintro ⟨first, firstMember, success, _, earliest⟩
    have le := earliest _ member result rfl
    have ge := verdict.success_le contest completes firstMember success
    -- The times are distinct, so the first success is the one that has won.
    have same := List.inj_on_of_nodup_map distinct firstMember member
      (Nat.le_antisymm le (time.symm ▸ ge))
    rw [same] at success
    exact Except.ok.inj success
  · intro allLost
    obtain ⟨reason, failed⟩ := (allLost _ member).2
    cases failed
  · rintro ⟨tooLate, _⟩
    exact tooLate _ member result rfl (time.symm ▸ inTime)

theorem Verdict.anyOf_lost {reason : ε} (verdict : Verdict now standings (.done (.error reason)))
    (contest : Contest now activities trace standings)
    (completes : List.Forall₂ Standing.Completes standings completions)
    (inTime : ∀ time ≤ now, InTime time)
    (won : ∀ value, ¬Won value) (lost : Lost) (late : ¬Late) :
    AnyOf InTime completions Won Lost Late := by
  have failed : ∀ each ∈ completions,
      InTime each.time ∧ ∃ reason, each.result = .error reason := by
    intro each member
    obtain ⟨standing, among, own⟩ := exists_standing completes member
    obtain ⟨activity, stands⟩ := contest.stands standing among
    obtain ⟨why, done⟩ := verdict.lost reason rfl standing among
    obtain rfl := own.of_done done
    exact ⟨inTime _ stands.time_le, why, rfl⟩
  refine ⟨fun value => iff_of_false (won value) ?_, iff_of_true lost failed, iff_of_false late ?_⟩
  · rintro ⟨first, member, success, _⟩
    obtain ⟨_, why, failure⟩ := failed first member
    rw [success] at failure
    cases failure
  · rintro ⟨_, pending, member, tooLate⟩
    exact tooLate (failed pending member).1

/-- A race that goes on at its limit was not won, and some go on. -/
theorem Verdict.anyOf_late {limit duration : Millis} {next : Activity I (Except ε α)}
    (verdict : Verdict limit standings (.sleep duration next)) (positive : 0 < duration)
    (contest : Contest limit activities trace standings)
    (completes : List.Forall₂ Standing.Completes standings completions)
    (won : ∀ value, ¬Won value) (lost : ¬Lost) (late : Late) :
    AnyOf (· ≤ limit) completions Won Lost Late := by
  obtain ⟨all, sleeper, asleepMember, asleep⟩ := verdict.asleep duration next rfl
  have tooLong : ∀ standing ∈ standings, standing.Asleep duration → ∀ completion,
      standing.Completes completion → ¬completion.time ≤ limit := by
    intro standing among sleeping completion own
    obtain ⟨activity, stands⟩ := contest.stands standing among
    have here : standing.time = limit := by
      rcases stands.ended with here | ⟨result, done⟩
      · exact here
      · obtain ⟨_, _, _, same⟩ := sleeping
        rw [same] at done
        cases done
    have le := own.of_asleep sleeping
    rw [here] at le
    exact Nat.not_le_of_lt (Nat.lt_of_lt_of_le (Nat.lt_add_of_pos_right positive) le)
  have unbeaten : ∀ each ∈ completions, ∀ value, each.result = .ok value →
      ¬each.time ≤ limit := by
    intro each member value success
    obtain ⟨standing, among, own⟩ := exists_standing completes member
    rcases all standing among with ⟨why, done⟩ | sleeping
    · obtain rfl := own.of_done done
      cases success
    · exact tooLong standing among sleeping each own
  obtain ⟨pending, pendingMember, own⟩ := exists_completion completes asleepMember
  have tooLate := tooLong sleeper asleepMember asleep pending own
  refine ⟨fun value => iff_of_false (won value) ?_, iff_of_false lost ?_, iff_of_true late ?_⟩
  · rintro ⟨first, member, success, inTime, _⟩
    exact unbeaten first member value success inTime
  · intro allLost
    exact tooLate (allLost pending pendingMember).1
  · exact ⟨unbeaten, pending, pendingMember, tooLate⟩

end

/-- Activities that belong to some items shared a trace up to some time, and any of them decides.
Wherever they go on to from there, each item ends so. -/
def Decided {ι : Type} (InTime : Millis → Prop) (items : List ι)
    (entrant : ι → Activity I (Except ε α)) (ItemEnds : ι → Completion (Except ε α) → Prop)
    (trace : List (Exchange I)) (now : Millis) (Won : α → Prop) (Lost Late : Prop) : Prop :=
  ∃ standings, Contest now (items.map entrant) trace standings ∧
    ∀ completions, List.Forall₂ Standing.Completes standings completions →
      (completions.map Completion.time).Nodup →
      List.Forall₂ ItemEnds items completions ∧ AnyOf InTime completions Won Lost Late

section

variable {ι : Type} {InTime : Millis → Prop} {items : List ι}
  {entrant : ι → Activity I (Except ε α)} {ItemEnds : ι → Completion (Except ε α) → Prop}
  {trace : List (Exchange I)} {elapsed : Millis} {nobody : ε} {Won : α → Prop} {Lost Late : Prop}

theorem Contest.items_end {now : Millis} {standings : List (Standing I (Except ε α))}
    {completions : List (Completion (Except ε α))}
    (endsAs : ∀ item completion, (entrant item).EndsAs completion → ItemEnds item completion)
    (contest : Contest now (items.map entrant) trace standings)
    (completes : List.Forall₂ Standing.Completes standings completions) :
    List.Forall₂ ItemEnds items completions :=
  (List.forall₂_map_left_iff.mp (contest.ends completes)).imp endsAs

/-- A race that ends decides between those that take part. -/
theorem race_decided {result : Except ε α}
    (endsAs : ∀ item completion, (entrant item).EndsAs completion → ItemEnds item completion)
    (ends : (race nobody (items.map entrant)).Ends trace elapsed result)
    (inTime : ∀ time ≤ elapsed, InTime time) (won : ∀ value, Won value ↔ result = .ok value)
    (lost : Lost ↔ ∃ reason, result = .error reason) (late : ¬Late) :
    Decided InTime items entrant ItemEnds trace elapsed Won Lost Late := by
  obtain ⟨standings, contest, verdict⟩ := race_reaches (reaches_done_iff.mpr ends)
  refine ⟨standings, contest, ?_⟩
  intro completions completes distinct
  refine ⟨contest.items_end endsAs completes, ?_⟩
  cases result with
  | ok value =>
    have onTime := inTime elapsed (Nat.le_refl elapsed)
    refine verdict.anyOf_won contest completes distinct onTime ?_ ?_ late
    · intro other
      rw [won other, Except.ok.injEq]
    · simp [lost]
  | error reason =>
    refine verdict.anyOf_lost contest completes inTime ?_ (lost.mpr ⟨reason, rfl⟩) late
    intro value
    simp [won value]

/-- So does a race within a limit. -/
theorem race_within_decided {limit : Millis} {outcome? : Option (Except ε α)}
    (endsAs : ∀ item completion, (entrant item).EndsAs completion → ItemEnds item completion)
    (ends : (within limit (race nobody (items.map entrant))).Ends trace elapsed outcome?)
    (won : ∀ value, Won value ↔ outcome? = some (.ok value))
    (lost : Lost ↔ ∃ reason, outcome? = some (.error reason)) (late : Late ↔ outcome? = none) :
    Decided (· ≤ limit) items entrant ItemEnds trace elapsed Won Lost Late := by
  cases outcome? with
  | some outcome =>
    obtain ⟨ended, inTime⟩ := ends_of_within_some ends
    simp only [Option.some.injEq] at won lost
    have onTime : ∀ time ≤ elapsed, time ≤ limit := fun time le => Nat.le_trans le inTime
    exact race_decided endsAs ended onTime won lost (by simp [late])
  | none =>
    obtain ⟨⟨duration, next, positive, walk⟩, rfl⟩ := ends_of_within_none ends
    obtain ⟨standings, contest, verdict⟩ := race_reaches walk
    refine ⟨standings, contest, ?_⟩
    intro completions completes distinct
    refine ⟨contest.items_end endsAs completes, ?_⟩
    exact verdict.anyOf_late positive contest completes (by simp [won]) (by simp [lost])
      (late.mpr rfl)

end

end PriceRelay.Activity
