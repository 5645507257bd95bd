import PriceRelay.Condition.Deviation
import PriceRelay.Proofs.Number.Unsigned
/-!
The deviation of a feed as the largest one of its observations. Whether a feed fires is decided by
each observation alone, so neither the order of packages and points nor the other observations
matter, and a package more never holds a feed back.
-/

namespace PriceRelay.Condition

open Number

/-- How far an observation lies from the stored value, in percent. -/
def pointDeviation (stored : Nat) (point : DataPoint) : Float :=
  deviationPercent point.value (contractValue stored point.decimals)

/-- The observations of a feed in the packages that are listed under it. -/
def pointsOf (feed : FeedId) (set : PackageSet) : List DataPoint :=
  (set.listed feed).flatMap (·.pointsFor feed)

section

variable {feed : FeedId} {set other : PackageSet} {stored : Nat} {threshold : Float}

theorem mem_pointsOf_iff {point : DataPoint} :
    point ∈ pointsOf feed set ↔
      ∃ package ∈ set.listed feed, point ∈ package.points ∧ point.feed = feed := by
  simp [pointsOf, Package.pointsFor]

theorem map_percent_observations :
    (observations feed set stored).map Observation.percent =
      (pointsOf feed set).map (pointDeviation stored) := by
  simp only [observations, pointsOf, List.map_flatMap, List.map_map]
  rfl

theorem largestDeviation_eq :
    largestDeviation (observations feed set stored) =
      ((pointsOf feed set).map (pointDeviation stored)).foldl larger 0.0 := by
  rw [← map_percent_observations, List.foldl_map]
  rfl

/-- A deviation is a magnitude, unless it is not a number. -/
theorem unsigned_deviationPercent {observed base : Float}
    (number : (deviationPercent observed base).isNaN = false) :
    Unsigned (deviationPercent observed base) := by
  unfold deviationPercent at *
  split
  · split
    · exact unsigned_zero
    · exact unsigned_greatest
  · rename_i nonzero
    rw [if_neg nonzero] at number
    exact unsigned_abs_mul _ (unsigned_of_positive (by decide +kernel)) number

theorem unsigned_pointDeviations (stored : Nat) (points : List DataPoint) :
    ∀ value ∈ points.map (pointDeviation stored), value.isNaN = false → Unsigned value := by
  rw [List.forall_mem_map]
  exact fun point _ => unsigned_deviationPercent

theorem deviation_fires_iff (positive : 0.0 < threshold) :
    (deviation feed set stored threshold).fires = true ↔
      ∃ point ∈ pointsOf feed set, (pointDeviation stored point).isNaN = false ∧
        threshold ≤ pointDeviation stored point := by
  have reached := (unsigned_zero.foldl_larger (unsigned_pointDeviations stored
    (pointsOf feed set))).2 threshold (unsigned_of_positive positive)
  rw [← largestDeviation_eq, or_iff_right (not_le_zero positive)] at reached
  simp only [List.mem_map, exists_exists_and_eq_and] at reached
  have opened : (deviation feed set stored threshold).fires = true ↔
      observations feed set stored ≠ [] ∧
        threshold ≤ largestDeviation (observations feed set stored) := by
    simp [deviation]
  rw [opened, ← reached]
  refine and_iff_right_of_imp fun most => ?_
  obtain ⟨point, member, -⟩ := reached.mp most
  have observed := List.ne_nil_of_mem (List.mem_map_of_mem (f := pointDeviation stored) member)
  rw [← map_percent_observations] at observed
  exact mt (congrArg (List.map Observation.percent)) observed

theorem largest_congr (same : ∀ point, point ∈ pointsOf feed other ↔ point ∈ pointsOf feed set) :
    (deviation feed other stored threshold).largest =
      (deviation feed set stored threshold).largest := by
  change largestDeviation _ = largestDeviation _
  rw [largestDeviation_eq, largestDeviation_eq]
  apply foldl_larger_congr (unsigned_pointDeviations _ _)
  intro value
  simp only [List.mem_map, same]

theorem mem_pointsOf_of_perm
    (perm : ((other.listed feed).flatMap (·.points)).Perm ((set.listed feed).flatMap (·.points)))
    (point : DataPoint) : point ∈ pointsOf feed other ↔ point ∈ pointsOf feed set := by
  have among := perm.mem_iff (a := point)
  simp only [List.mem_flatMap] at among
  simp only [mem_pointsOf_iff, ← and_assoc, exists_and_right]
  rw [among]

end

/-- A positive threshold fires exactly where an observation of the feed reaches it, and the largest
deviation is that of the observations, those that are not numbers aside. So both are the same for
the same observations in any order of packages and points, more packages keep a feed firing, and a
feed that is not observed does not fire. -/
theorem deviation_fires_reached (feed : FeedId) (set : PackageSet) (stored : Nat)
    (threshold : Float) (positive : 0.0 < threshold) :
    let check := deviation feed set stored threshold
    (check.fires = true ↔ ∃ package ∈ set.listed feed, ∃ point ∈ package.points,
      point.feed = feed ∧ (pointDeviation stored point).isNaN = false ∧
        threshold ≤ pointDeviation stored point) ∧
    IsLargest ((pointsOf feed set).map (pointDeviation stored)) check.largest ∧
    (∀ other : PackageSet,
      ((other.listed feed).flatMap (·.points)).Perm ((set.listed feed).flatMap (·.points)) →
      (deviation feed other stored threshold).fires = check.fires ∧
        (deviation feed other stored threshold).largest = check.largest) ∧
    (∀ other : PackageSet, set.listed feed ⊆ other.listed feed →
      check.fires = true → (deviation feed other stored threshold).fires = true) ∧
    ((∀ package ∈ set.listed feed, package.carries feed = false) → check.fires = false) := by
  intro check
  have fires (set : PackageSet) : (deviation feed set stored threshold).fires = true ↔
      ∃ point ∈ pointsOf feed set, (pointDeviation stored point).isNaN = false ∧
        threshold ≤ pointDeviation stored point := deviation_fires_iff positive
  refine ⟨?_, ?_, ?_, ?_, ?_⟩
  · rw [fires]
    simp only [mem_pointsOf_iff]
    constructor
    · rintro ⟨point, ⟨package, listed, member, same⟩, reaches⟩
      exact ⟨package, listed, point, member, same, reaches⟩
    · rintro ⟨package, listed, point, member, same, reaches⟩
      exact ⟨point, ⟨package, listed, member, same⟩, reaches⟩
  · change IsLargest _ (largestDeviation _)
    rw [largestDeviation_eq]
    exact foldl_larger_isLargest (unsigned_pointDeviations _ _)
  · intro other perm
    have same := mem_pointsOf_of_perm perm
    refine ⟨Bool.eq_iff_iff.mpr ?_, largest_congr same⟩
    rw [fires, fires]
    simp only [same]
  · intro other more fired
    obtain ⟨point, member, reaches⟩ := (fires set).mp fired
    obtain ⟨package, listed, observed⟩ := mem_pointsOf_iff.mp member
    exact (fires other).mpr ⟨point, mem_pointsOf_iff.mpr ⟨package, more listed, observed⟩, reaches⟩
  · intro unobserved
    rw [← Bool.not_eq_true, fires]
    rintro ⟨point, member, -⟩
    obtain ⟨package, listed, among, same⟩ := mem_pointsOf_iff.mp member
    have carried : package.carries feed = true := by
      simpa [Package.carries] using ⟨point, among, same⟩
    rw [unobserved package listed] at carried
    cases carried

def pricedAt (prices : List Float) : PackageSet :=
  FeedMap.ofList [("ETH", prices.map fun price =>
    { id := "ETH", timestamp := 1000, signer := default, signature := []
      points := [{ feed := "ETH", value := price }] })]

/-- One price of three is three percent away from the stored one, which has 8 decimals. That is
enough for a threshold of two percent, whichever comes first and beside what is not a number. -/
theorem deviation_fires_reached_third :
    0.0 < (2.0 : Float) ∧
      (deviation "ETH" (pricedAt [100.1, 0.0 / 0.0, 103.0]) 10000000000 2.0).fires = true ∧
      (deviation "ETH" (pricedAt [103.0, 0.0 / 0.0, 100.1]) 10000000000 2.0).fires = true ∧
      (deviation "ETH" (pricedAt []) 10000000000 2.0).fires = false := by
  have positive : 0.0 < (2.0 : Float) := by decide +kernel
  have law (set : PackageSet) := deviation_fires_reached "ETH" set 10000000000 2.0 positive
  have fired := (law (pricedAt [100.1, 0.0 / 0.0, 103.0])).1.mpr
    ⟨_, .tail _ (.tail _ (.head _)), _, .head _, rfl, by decide +kernel, by decide +kernel⟩
  have again := ((law (pricedAt [100.1, 0.0 / 0.0, 103.0])).2.2.1
    (pricedAt [103.0, 0.0 / 0.0, 100.1]) (by decide +kernel)).1
  exact ⟨positive, fired, again.trans fired, (law (pricedAt [])).2.2.2.2 (by decide +kernel)⟩

end PriceRelay.Condition
