import PriceRelay.Request
/-!
The order of packages: by id, and packages of one id by signer. Two packages that come no later than
each other have the same id and the same signer.
-/

namespace PriceRelay.Request

open PackageSet (key)

variable {a b : Package}

theorem before_iff : before a b = true ↔
    a.id < b.id ∨ a.id = b.id ∧ a.signer.toNat ≤ b.signer.toNat := by
  by_cases same : a.id = b.id <;> simp [before, FixedBytes.le, same]

theorem before_trans (a b c : Package) (first : before a b = true) (second : before b c = true) :
    before a c = true := by
  rw [before_iff] at first second ⊢
  rcases first with earlier | ⟨same, signer⟩
  · rcases second with later | ⟨same, _⟩
    · exact .inl (String.lt_trans earlier later)
    · exact .inl (same ▸ earlier)
  · rcases second with later | ⟨equal, last⟩
    · exact .inl (same ▸ later)
    · exact .inr ⟨same.trans equal, Nat.le_trans signer last⟩

theorem before_of_key (same : key a = key b) : before a b = true := by
  obtain ⟨id, signer⟩ := Prod.mk.inj same
  exact before_iff.mpr (.inr ⟨id, Nat.le_of_eq (congrArg FixedBytes.toNat signer)⟩)

theorem before_total (a b : Package) : (before a b || before b a) = true := by
  rw [Bool.or_eq_true, before_iff, before_iff]
  by_cases same : a.id = b.id
  · rcases Nat.le_total a.signer.toNat b.signer.toNat with first | second
    · exact .inl (.inr ⟨same, first⟩)
    · exact .inr (.inr ⟨same.symm, second⟩)
  · by_cases earlier : a.id < b.id
    · exact .inl (.inl earlier)
    · refine .inr (.inl (Decidable.byContradiction fun notLater => same ?_))
      exact String.le_antisymm (String.not_lt.mp notLater) (String.not_lt.mp earlier)

theorem key_eq_of_before (first : before a b = true) (second : before b a = true) :
    key a = key b := by
  rw [before_iff] at first second
  rcases first with earlier | ⟨same, signer⟩
  · rcases second with later | ⟨same, _⟩
    · exact absurd (String.lt_trans earlier later) (String.lt_irrefl _)
    · exact absurd (same ▸ earlier) (String.lt_irrefl _)
  · rcases second with later | ⟨_, equal⟩
    · exact absurd (same ▸ later) (String.lt_irrefl _)
    · exact Prod.ext same (FixedBytes.toNat_inj.mp (Nat.le_antisymm signer equal))

end PriceRelay.Request
