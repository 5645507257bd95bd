import Mathlib.Data.List.Forall2
/-!
Lists: what stands beside what, what a list was put together from, and the least of numbers.
-/

namespace PriceRelay

variable {α β : Type}

theorem exists_beside {R : α → β → Prop} {items : List α} {others : List β}
    (related : List.Forall₂ R items others) {item : α} (member : item ∈ items) :
    ∃ other ∈ others, R item other := by
  induction related with
  | nil => cases member
  | cons own _ ih =>
    rcases List.mem_cons.mp member with rfl | later
    · exact ⟨_, List.mem_cons_self, own⟩
    · obtain ⟨other, among, holds⟩ := ih later
      exact ⟨other, List.mem_cons_of_mem _ among, holds⟩

theorem map_fst_zip (first : List α) (second : List β) :
    (first.zip second).map Prod.fst = first.take (min second.length first.length) := by
  induction first generalizing second with
  | nil => simp
  | cons head rest ih =>
    cases second with
    | nil => simp
    | cons other others => simp [ih, Nat.add_min_add_right]

theorem split_single {before after : List α} {item only : α}
    (same : [only] = before ++ item :: after) : before = [] ∧ item = only ∧ after = [] := by
  cases before with
  | nil => simpa [eq_comm] using same
  | cons first rest => simp at same

section

variable {bound least : Nat} {numbers : List Nat}

theorem lt_min?_iff (found : numbers.min? = some least) :
    bound < least ↔ ∀ number ∈ numbers, bound < number := by
  obtain ⟨member, bounds⟩ := List.min?_eq_some_iff.mp found
  constructor
  · intro below number present
    exact Nat.lt_of_lt_of_le below (bounds number present)
  · intro below
    exact below least member

theorem any_lt_min?_iff :
    numbers.min?.any (bound < ·) = true ↔ numbers ≠ [] ∧ ∀ number ∈ numbers, bound < number := by
  cases found : numbers.min? with
  | none => simp [List.min?_eq_none_iff.mp found]
  | some least =>
    have nonempty : numbers ≠ [] := List.ne_nil_of_mem (List.min?_mem found)
    simp [nonempty, lt_min?_iff found]

end

end PriceRelay
