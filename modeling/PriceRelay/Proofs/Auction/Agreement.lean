import PriceRelay.Auction.Agreement
import PriceRelay.Proofs.Successes
/-!
Simulated values pass their check exactly when there is one for each feed, in order, and each lies
near the mean of what was served for its feed.
-/

namespace PriceRelay.Auction

/-- There are served values of a feed, and a simulated value lies near their mean. -/
def Agrees (packages : PackageSet) (feed : FeedId) (value : Nat) : Prop :=
  ∃ first more, servedPoints feed packages = first :: more ∧
    nearlyEqual (mean (Number.tenTo first.decimals) (first :: more))
      (Condition.contractValue value first.decimals) = true

/-- Each feed has one value, and agrees with it. -/
structure AllAgree (packages : PackageSet) (feeds : List FeedId) (values : List Nat) : Prop where
  count : values.length = feeds.length
  agree : ∀ entry ∈ feeds.zip values, Agrees packages entry.1 entry.2

variable {hash : Hash} {packages : PackageSet}

theorem checkValue_ok_iff {feed : FeedId} {value : Nat} :
    checkValue hash packages feed value = .ok () ↔ Agrees packages feed value := by
  unfold checkValue Agrees
  cases served : servedPoints feed packages with
  | nil => simp
  | cons first more =>
    by_cases near : nearlyEqual (mean (Number.tenTo first.decimals) (first :: more))
      (Condition.contractValue value first.decimals) = true
    · constructor
      · intro _
        exact ⟨first, more, rfl, near⟩
      · intro _
        simp only [near, if_true]
    · constructor
      · intro success
        simp only [near] at success
        cases success
      · rintro ⟨other, others, same, agrees⟩
        cases same
        exact absurd agrees near

theorem checkEach_ok_iff {entries : List (FeedId × Nat)} :
    checkEach hash packages entries = .ok () ↔
      ∀ entry ∈ entries, Agrees packages entry.1 entry.2 := by
  induction entries with
  | nil => simp [checkEach]
  | cons entry rest ih =>
    obtain ⟨feed, value⟩ := entry
    rw [checkEach, bind_ok_iff, List.forall_mem_cons, ← ih]
    constructor
    · rintro ⟨⟨⟩, first, others⟩
      exact ⟨checkValue_ok_iff.mp first, others⟩
    · rintro ⟨first, others⟩
      exact ⟨(), checkValue_ok_iff.mpr first, others⟩

theorem checkValues_ok_iff {feeds : List FeedId} {values : List Nat} :
    checkValues hash packages feeds values = .ok () ↔ AllAgree packages feeds values := by
  unfold checkValues
  by_cases count : values.length = feeds.length
  · rw [if_pos count, checkEach_ok_iff]
    constructor
    · intro agree
      exact ⟨count, agree⟩
    · intro all
      exact all.agree
  · rw [if_neg count]
    constructor
    · intro success
      cases success
    · intro all
      exact absurd all.count count

end PriceRelay.Auction
