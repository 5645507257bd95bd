import PriceRelay.Proofs.Activity.SideBySide
/-!
Races. Those that take part share a trace, and at any time each of them stands somewhere: it has
ended, or it got as far as there was time. Where the race itself has got to says how they stand.
-/

namespace PriceRelay.Activity

variable {I : Interface} {α ε : Type}

/-- How one of several activities stands: its part of a trace, the time up to which it is known, and
what is left of it. -/
structure Standing (I : Interface) (α : Type) where
  part : List (Exchange I)
  time : Millis
  rest : Activity I α

/-- An activity stands so at some time. If it got there before, it has ended. -/
structure StandsAt (now : Millis) (activity : Activity I α) (standing : Standing I α) : Prop where
  walk : activity.Reaches standing.part standing.time standing.rest
  time_le : standing.time ≤ now
  ended : standing.time = now ∨ ∃ result, standing.rest = .done result

/-- How activities that share a trace stand at some time. -/
inductive Contest (now : Millis) :
    List (Activity I α) → List (Exchange I) → List (Standing I α) → Prop where
  | nil : Contest now [] [] []
  | cons {activity : Activity I α} {activities : List (Activity I α)} {standing : Standing I α}
      {standings : List (Standing I α)} {others trace : List (Exchange I)}
      (parts : Interleaved standing.part others trace)
      (stands : StandsAt now activity standing)
      (rest : Contest now activities others standings) :
      Contest now (activity :: activities) trace (standing :: standings)

namespace Standing

def Succeeded (standing : Standing I (Except ε α)) : Prop :=
  ∃ result, standing.rest = .done (.ok result)

def Failed (standing : Standing I (Except ε α)) : Prop :=
  ∃ reason, standing.rest = .done (.error reason)

def Asleep (standing : Standing I α) (duration : Millis) : Prop :=
  ∃ more next, duration ≤ more ∧ standing.rest = .sleep more next

theorem Failed.not_succeeded {standing : Standing I (Except ε α)} (failed : standing.Failed) :
    ¬standing.Succeeded := by
  rintro ⟨result, ok⟩
  obtain ⟨reason, error⟩ := failed
  rw [error] at ok
  cases ok

end Standing

/-- What the state of a race says about those that take part. -/
structure Verdict (now : Millis) (standings : List (Standing I (Except ε α)))
    (state : Activity I (Except ε α)) : Prop where
  /-- Nobody has succeeded before. -/
  unbeaten : ∀ standing ∈ standings, standing.Succeeded → standing.time = now
  won : ∀ result, state = .done (.ok result) →
    ∃ standing ∈ standings, standing.rest = .done (.ok result)
  lost : ∀ reason, state = .done (.error reason) → ∀ standing ∈ standings, standing.Failed
  asleep : ∀ duration next, state = .sleep duration next →
    (∀ standing ∈ standings, standing.Failed ∨ standing.Asleep duration) ∧
      ∃ standing ∈ standings, standing.Asleep duration

section

variable {now earlier : Millis} {activities : List (Activity I (Except ε α))}
  {trace part : List (Exchange I)} {standing : Standing I (Except ε α)}
  {standings : List (Standing I (Except ε α))}
  {activity left right state rest : Activity I (Except ε α)}

/-- Those that have ended stand where they are. -/
theorem Contest.later (contest : Contest earlier activities trace standings)
    (le : earlier ≤ now) (failed : ∀ standing ∈ standings, standing.Failed) :
    Contest now activities trace standings := by
  induction contest with
  | nil => exact .nil
  | cons parts stands _ ih =>
    obtain ⟨⟨reason, ended⟩, others⟩ := List.forall_mem_cons.mp failed
    exact .cons parts ⟨stands.walk, Nat.le_trans stands.time_le le, .inr ⟨_, ended⟩⟩ (ih others)

theorem Verdict.won_cons {result : α} (verdict : Verdict now standings state)
    (same : state = .done (.ok result)) (first : Standing I (Except ε α)) :
    ∃ standing ∈ first :: standings, standing.rest = .done (.ok result) := by
  obtain ⟨winner, member, success⟩ := verdict.won result same
  exact ⟨winner, List.mem_cons_of_mem first member, success⟩

/-- Failures of others change nothing for those that go on. -/
theorem Verdict.cons_failed (verdict : Verdict now standings state) (failed : standing.Failed) :
    Verdict now (standing :: standings) state where
  unbeaten := List.forall_mem_cons.mpr
    ⟨fun succeeded => absurd succeeded failed.not_succeeded, verdict.unbeaten⟩
  won result same := verdict.won_cons same standing
  lost reason same := List.forall_mem_cons.mpr ⟨failed, verdict.lost reason same⟩
  asleep duration next same := by
    obtain ⟨all, sleeper, member, asleep⟩ := verdict.asleep duration next same
    exact ⟨List.forall_mem_cons.mpr ⟨.inl failed, all⟩, sleeper,
      List.mem_cons_of_mem standing member, asleep⟩

theorem verdict_alone (part : List (Exchange I)) (state : Activity I (Except ε α))
    (failed : ∀ standing ∈ standings, standing.Failed) :
    Verdict now (⟨part, now, state⟩ :: standings) state where
  unbeaten := by
    refine List.forall_mem_cons.mpr ⟨fun _ => rfl, ?_⟩
    intro other member succeeded
    exact absurd succeeded (failed other member).not_succeeded
  won result same := ⟨_, List.mem_cons_self, same⟩
  lost reason same := List.forall_mem_cons.mpr ⟨⟨reason, same⟩, failed⟩
  asleep duration next same := by
    have own : (Standing.mk part now state).Asleep duration := ⟨duration, next, Nat.le_refl _, same⟩
    refine ⟨List.forall_mem_cons.mpr ⟨.inr own, ?_⟩, _, List.mem_cons_self, own⟩
    intro other member
    exact .inl (failed other member)

theorem Verdict.cons_running {result : α} (verdict : Verdict now standings (.done (.ok result)))
    (part : List (Exchange I)) (running : Activity I (Except ε α)) :
    Verdict now (⟨part, now, running⟩ :: standings) (.done (.ok result)) where
  unbeaten := List.forall_mem_cons.mpr ⟨fun _ => rfl, verdict.unbeaten⟩
  won other same := verdict.won_cons same _
  lost reason same := by cases same
  asleep duration next same := by cases same

theorem firstOf_eq_done {outcome : Except ε α} (same : firstOf left right = .done outcome) :
    (left = .done outcome ∨ right = .done outcome) ∧ ∀ reason, outcome = .error reason →
      (∃ first, left = .done (.error first)) ∧ ∃ second, right = .done (.error second) := by
  rcases beside_eq_done same with ⟨ended, rfl, last⟩ | ⟨ended, rfl, last⟩ <;> cases ended with
  | ok result =>
    cases last
    exact ⟨by simp, by rintro reason ⟨⟩⟩
  | error first =>
    change _ = _ at last
    subst last
    exact ⟨by simp, by rintro reason rfl; simp⟩

theorem firstOf_eq_sleep {duration : Millis} {next : Activity I (Except ε α)}
    (same : firstOf left right = .sleep duration next) :
    (∃ reason, left = .done (.error reason) ∧ right = .sleep duration next) ∨
      (∃ reason, right = .done (.error reason) ∧ left = .sleep duration next) ∨
      ∃ more later other late, duration ≤ more ∧ duration ≤ other ∧ left = .sleep more later ∧
        right = .sleep other late := by
  cases left with
  | done ended =>
    cases ended with
    | ok result => cases same
    | error reason => exact .inl ⟨reason, rfl, same⟩
  | ask question later => cases same
  | sleep more later =>
    cases right with
    | done ended =>
      cases ended with
      | ok result => cases same
      | error reason => exact .inr (.inl ⟨reason, rfl, same⟩)
    | ask question late => cases same
    | sleep other late =>
      rw [firstOf, beside_sleep] at same
      split at same
      case isTrue sooner =>
        cases same
        exact .inr (.inr ⟨_, _, _, _, Nat.le_refl _, sooner, rfl, rfl⟩)
      case isFalse longer =>
        cases same
        exact .inr (.inr ⟨_, _, _, _, Nat.le_of_not_le longer, Nat.le_refl _, rfl, rfl⟩)

theorem Verdict.cons (verdict : Verdict now standings right) (part : List (Exchange I))
    (left : Activity I (Except ε α)) :
    Verdict now (⟨part, now, left⟩ :: standings) (firstOf left right) where
  unbeaten := List.forall_mem_cons.mpr ⟨fun _ => rfl, verdict.unbeaten⟩
  won result same := by
    rcases (firstOf_eq_done same).1 with own | others
    · exact ⟨_, List.mem_cons_self, own⟩
    · exact verdict.won_cons others _
  lost reason same := by
    obtain ⟨own, second, others⟩ := (firstOf_eq_done same).2 reason rfl
    exact List.forall_mem_cons.mpr ⟨own, verdict.lost second others⟩
  asleep duration next same := by
    rcases firstOf_eq_sleep same with ⟨reason, own, others⟩ | ⟨reason, others, own⟩ |
      ⟨more, later, other, late, le, leOther, own, others⟩
    · have failed : (Standing.mk part now left).Failed := ⟨reason, own⟩
      exact (verdict.cons_failed failed).asleep duration next others
    · exact (verdict_alone part left (verdict.lost reason others)).asleep duration next own
    · obtain ⟨all, _⟩ := verdict.asleep other late others
      have asleep : (Standing.mk part now left).Asleep duration := ⟨more, later, le, own⟩
      refine ⟨List.forall_mem_cons.mpr ⟨.inr asleep, ?_⟩, _, List.mem_cons_self, asleep⟩
      intro standing member
      rcases all standing member with failed | ⟨longer, rest, leLonger, same⟩
      · exact .inl failed
      · exact .inr ⟨longer, rest, Nat.le_trans leOther leLonger, same⟩

theorem standsAt_now (walk : activity.Reaches part now rest) :
    StandsAt now activity ⟨part, now, rest⟩ :=
  ⟨walk, Nat.le_refl now, .inl rfl⟩

theorem reaches_from_done {outcome : Except ε α}
    (walk : (Activity.done outcome).Reaches trace now rest) :
    trace = [] ∧ now = 0 ∧ rest = .done outcome := by
  cases walk
  exact ⟨rfl, rfl, rfl⟩

theorem firstOf_reaches
    (others : ∀ {trace now state}, right.Reaches trace now state →
      ∃ standings, Contest now activities trace standings ∧ Verdict now standings state)
    (walk : (firstOf left right).Reaches trace now state) :
    ∃ standings, Contest now (left :: activities) trace standings ∧
      Verdict now standings state := by
  cases handover_beside walk with
  | running shared same =>
    obtain ⟨own, rest, parts, ownWalk, restWalk⟩ := shared
    obtain ⟨standings, contest, verdict⟩ := others restWalk
    subst same
    exact ⟨_, .cons parts (standsAt_now ownWalk) contest, verdict.cons own _⟩
  | left split time shared onward =>
    rename_i result right' before after early late
    obtain ⟨own, rest, parts, ownWalk, restWalk⟩ := shared
    subst split time
    cases result with
    | ok result =>
      obtain ⟨rfl, rfl, rfl⟩ := reaches_from_done onward
      obtain ⟨standings, contest, verdict⟩ := others restWalk
      rw [List.append_nil]
      exact ⟨_, .cons parts (standsAt_now ownWalk) contest, verdict.cons own _⟩
    | error reason =>
      -- The first has failed by then, and the others race on without it.
      obtain ⟨standings, contest, verdict⟩ := others (restWalk.trans onward)
      have parts := parts.append (.right_only after)
      rw [List.append_nil] at parts
      refine ⟨⟨own, early, .done (.error reason)⟩ :: standings, .cons parts ?_ contest, ?_⟩
      · exact ⟨ownWalk, Nat.le_add_right early late, .inr ⟨_, rfl⟩⟩
      · exact verdict.cons_failed ⟨reason, rfl⟩
  | right split time shared onward =>
    rename_i result left' before after early late
    obtain ⟨own, rest, parts, ownWalk, restWalk⟩ := shared
    subst split time
    obtain ⟨standings, contest, verdict⟩ := others restWalk
    cases result with
    | ok result =>
      obtain ⟨rfl, rfl, rfl⟩ := reaches_from_done onward
      rw [List.append_nil]
      exact ⟨_, .cons parts (standsAt_now ownWalk) contest, verdict.cons_running own _⟩
    | error reason =>
      -- All others have failed by then, and the first goes on alone.
      have failed := verdict.lost reason rfl
      have parts := parts.append (.left_only after)
      rw [List.append_nil] at parts
      refine ⟨⟨own ++ after, early + late, state⟩ :: standings, .cons parts ?_ ?_, ?_⟩
      · exact standsAt_now (ownWalk.trans onward)
      · exact contest.later (Nat.le_add_right early late) failed
      · exact verdict_alone (own ++ after) state failed

/-- Where a race has got to, those that take part stand accordingly. -/
theorem race_reaches {nobody : ε} (walk : (race nobody activities).Reaches trace now state) :
    ∃ standings, Contest now activities trace standings ∧ Verdict now standings state := by
  induction activities generalizing trace now state with
  | nil =>
    obtain ⟨rfl, rfl, rfl⟩ := reaches_from_done walk
    refine ⟨[], .nil, ?_, ?_, ?_, ?_⟩ <;> simp
  | cons first activities ih =>
    cases activities with
    | nil =>
      refine ⟨[⟨trace, now, state⟩], .cons (.left_only trace) (standsAt_now walk) .nil, ?_⟩
      exact verdict_alone trace state (by simp)
    | cons second others => exact firstOf_reaches ih walk

end

end PriceRelay.Activity
