import PriceRelay.Proofs.Lists
/-!
Attempts that succeed: of two in a row both do, and of a whole list each.
-/

namespace PriceRelay

variable {ε α β : Type}

theorem bind_ok_iff {first : Except ε α} {next : α → Except ε β} {result : β} :
    (first >>= next) = .ok result ↔ ∃ middle, first = .ok middle ∧ next middle = .ok result := by
  cases first with
  | error failure => simp [bind, Except.bind]
  | ok middle => simp [bind, Except.bind]

theorem exists_error_iff {attempt : Except ε α} :
    (∃ failure, attempt = .error failure) ↔ ¬∃ result, attempt = .ok result := by
  cases attempt <;> simp

theorem exists_ok_of_toBool {attempt : Except ε α} (success : attempt.toBool = true) :
    ∃ result, attempt = .ok result := by
  cases attempt with
  | error failure => cases success
  | ok result => exact ⟨result, rfl⟩

theorem mapError_ok_iff {δ : Type} {change : ε → δ} {attempt : Except ε α} {result : α} :
    attempt.mapError change = .ok result ↔ attempt = .ok result := by
  cases attempt with
  | error failure =>
    constructor
    · intro success
      cases success
    · intro success
      cases success
  | ok value =>
    constructor
    · intro success
      cases success
      rfl
    · intro success
      cases success
      rfl

/-- Where a whole list succeeds, the results are those of its items in order. -/
theorem mapM_ok_iff {attempt : α → Except ε β} {items : List α} {results : List β} :
    items.mapM attempt = .ok results ↔
      List.Forall₂ (fun result item => attempt item = .ok result) results items := by
  induction items generalizing results with
  | nil =>
    rw [List.mapM_nil, List.forall₂_nil_right_iff]
    constructor
    · rintro ⟨⟩
      rfl
    · rintro rfl
      rfl
  | cons head tail ih =>
    rw [List.mapM_cons, bind_ok_iff, List.forall₂_cons_right_iff]
    constructor
    · rintro ⟨first, headSuccess, rest⟩
      obtain ⟨others, tailSuccess, same⟩ := bind_ok_iff.mp rest
      cases same
      exact ⟨first, others, headSuccess, ih.mp tailSuccess, rfl⟩
    · rintro ⟨first, others, headSuccess, tailSuccess, rfl⟩
      exact ⟨first, headSuccess, bind_ok_iff.mpr ⟨others, ih.mpr tailSuccess, rfl⟩⟩

theorem mapM_ok_of_mem {attempt : α → Except ε β} {items : List α} {results : List β}
    (success : items.mapM attempt = .ok results) {item : α} (member : item ∈ items) :
    ∃ result, attempt item = .ok result := by
  obtain ⟨result, _, own⟩ := exists_beside
    (List.Forall₂.flip (R := fun item result => attempt item = .ok result)
      (mapM_ok_iff.mp success)) member
  exact ⟨result, own⟩

theorem exists_mapM_ok_iff {attempt : α → Except ε β} {items : List α} :
    (∃ results, items.mapM attempt = .ok results) ↔
      ∀ item ∈ items, ∃ result, attempt item = .ok result := by
  constructor
  · rintro ⟨results, success⟩ item member
    exact mapM_ok_of_mem success member
  · intro each
    induction items with
    | nil => exact ⟨[], rfl⟩
    | cons head tail ih =>
      obtain ⟨first, headSuccess⟩ := each head List.mem_cons_self
      obtain ⟨others, tailSuccess⟩ := ih fun item member => each item (List.mem_cons_of_mem _ member)
      refine ⟨first :: others, ?_⟩
      rw [List.mapM_cons]
      exact bind_ok_iff.mpr ⟨first, headSuccess, bind_ok_iff.mpr ⟨others, tailSuccess, rfl⟩⟩

end PriceRelay
