import Mathlib.Data.List.Nodup
import PriceRelay.Condition.Deviation
import PriceRelay.Proofs.Packages.Threshold
/-!
What the warnings about a feed's packages rule out. They look at the packages that are listed under
the feed; a payload for several feeds has others that carry it.
-/

namespace PriceRelay

theorem length_distinctFeeds_le_one_iff (texts : List String) :
    (distinctFeeds texts).length ≤ 1 ↔ ∀ first ∈ texts, ∀ second ∈ texts, first = second := by
  have listed : ∀ text, text ∈ distinctFeeds texts ↔ text ∈ texts := fun _ => mem_distinctFeeds_iff
  simp only [← listed]
  have distinct := nodup_distinctFeeds texts
  match distinctFeeds texts, distinct with
  | [], _ => simp
  | [only], _ => simp
  | first :: second :: rest, distinct =>
    have different : first ≠ second := by
      intro same
      simp [same] at distinct
    constructor
    · intro short
      simp at short
    · intro all
      exact absurd (all first (by simp) second (by simp)) different

namespace PackageSet

theorem duplicateSigners_go_nil_iff (seen found signers : List Address) :
    duplicateSigners.go seen found signers = [] ↔
      found = [] ∧ signers.Nodup ∧ ∀ signer ∈ signers, signer ∉ seen := by
  induction signers generalizing seen found with
  | nil => simp [duplicateSigners.go]
  | cons signer rest ih =>
    rw [duplicateSigners.go]
    split
    · rename_i repeated
      have again : signer ∈ seen := List.contains_iff_mem.mp repeated
      rw [ih]
      constructor
      · rintro ⟨none, _⟩
        split at none
        · rename_i already
          rw [none] at already
          cases already
        · simp at none
      · rintro ⟨_, _, fresh⟩
        exact absurd again (fresh signer List.mem_cons_self)
    · rename_i unseen
      have fresh : signer ∉ seen := by simpa using unseen
      rw [ih, List.nodup_cons, List.forall_mem_cons]
      simp only [List.mem_cons, not_or]
      constructor
      · rintro ⟨none, distinct, others⟩
        refine ⟨none, ⟨?_, distinct⟩, fresh, fun other member => (others other member).2⟩
        intro member
        exact (others signer member).1 rfl
      · rintro ⟨none, ⟨absent, distinct⟩, _, others⟩
        refine ⟨none, distinct, fun other member => ⟨?_, others other member⟩⟩
        rintro rfl
        exact absent member

theorem duplicateSigners_nil_iff (set : PackageSet) (feed : FeedId) :
    set.duplicateSigners feed = [] ↔ ((set.listed feed).map (·.signer)).Nodup := by
  rw [duplicateSigners, duplicateSigners_go_nil_iff]
  simp

end PackageSet

namespace Condition

open Request

/-- There is no warning exactly if the packages listed under a feed have one id and distinct
signers. -/
theorem disjointness_nil_iff (feed : FeedId) (set : PackageSet) :
    disjointness feed set = [] ↔
      (∀ first ∈ set.listed feed, ∀ second ∈ set.listed feed, first.id = second.id) ∧
        ((set.listed feed).map (·.signer)).Nodup := by
  have ids : ¬1 < (set.packageIds feed).length ↔
      ∀ first ∈ set.listed feed, ∀ second ∈ set.listed feed, first.id = second.id := by
    rw [Nat.not_lt, PackageSet.packageIds, length_distinctFeeds_le_one_iff]
    simp only [List.forall_mem_map]
  rw [← ids, ← PackageSet.duplicateSigners_nil_iff]
  simp only [disjointness, List.append_eq_nil_iff, List.isEmpty_iff]
  constructor
  · rintro ⟨single, distinct⟩
    split at single
    case isTrue => cases single
    case isFalse short =>
      refine ⟨short, ?_⟩
      split at distinct
      case isTrue none => exact none
      case isFalse => cases distinct
  · rintro ⟨short, none⟩
    rw [if_neg short, if_pos none]
    exact ⟨rfl, rfl⟩

/-- Where nothing is warned of, no signer's observations of a feed come in two packages of a
payload, if the packages that carry the feed all have an id that it is served under. -/
theorem disjointness_payload (set : PackageSet) (feeds : List FeedId)
    (silent : ∀ feed ∈ feeds, disjointness feed set = [])
    (grouped : ∀ feed ∈ feeds, ∀ package ∈ set.packagesFor feeds, package.carries feed = true →
      ∃ own ∈ set.listed feed, own.id = package.id) :
    ∀ feed ∈ feeds, ∀ first ∈ set.packagesFor feeds, ∀ second ∈ set.packagesFor feeds,
      first.signer = second.signer → first.carries feed = true → second.carries feed = true →
      first = second := by
  intro feed wanted first firstMember second secondMember signer firstCarries secondCarries
  obtain ⟨oneId, _⟩ := (disjointness_nil_iff feed set).mp (silent feed wanted)
  obtain ⟨own, ownListed, firstId⟩ := grouped feed wanted first firstMember firstCarries
  obtain ⟨other, otherListed, secondId⟩ := grouped feed wanted second secondMember secondCarries
  have id : first.id = second.id := by
    rw [← firstId, ← secondId]
    exact oneId own ownListed other otherListed
  have key : PackageSet.key first = PackageSet.key second := Prod.ext id signer
  exact List.inj_on_of_nodup_map (set.packagesFor_keys feeds) firstMember secondMember key

/-- Two feeds with packages of their own. -/
theorem disjointness_payload_apart :
    let set := sampleRequest.select
      [("primary", [samplePackage "BTC" ["BTC"], samplePackage "ETH" ["ETH"]])]
    (set.packagesFor ["ETH", "BTC"]).length = 2 ∧
    ∀ feed ∈ ["ETH", "BTC"],
      ∀ first ∈ set.packagesFor ["ETH", "BTC"], ∀ second ∈ set.packagesFor ["ETH", "BTC"],
        first.signer = second.signer → first.carries feed = true → second.carries feed = true →
        first = second := by
  intro set
  have listed := listed_sample [samplePackage "BTC" ["BTC"], samplePackage "ETH" ["ETH"]]
    (by decide +kernel)
  have silent : ∀ feed ∈ ["ETH", "BTC"], disjointness feed set = [] := by
    simp only [disjointness_nil_iff, set, listed]
    decide +kernel
  have grouped : ∀ feed ∈ ["ETH", "BTC"], ∀ package ∈ set.packagesFor ["ETH", "BTC"],
      package.carries feed = true → ∃ own ∈ set.listed feed, own.id = package.id := by
    simp only [PackageSet.packagesFor, set, listed]
    decide +kernel
  refine ⟨?_, disjointness_payload set ["ETH", "BTC"] silent grouped⟩
  simp only [PackageSet.packagesFor, set, listed]
  decide +kernel

/-- A package that was chosen for one feed may carry another one, for which a package of the same
signer was chosen under another id. Nothing is warned of then. -/
theorem disjointness_payload_overlaps :
    ¬∀ (request : Request) (answer : List (String × List Package)) (feeds : List FeedId),
      (∀ feed ∈ feeds, (request.select answer).has feed = true) →
      (∀ feed ∈ feeds, disjointness feed (request.select answer) = []) →
      ∀ feed ∈ feeds, ∀ first ∈ (request.select answer).packagesFor feeds,
        ∀ second ∈ (request.select answer).packagesFor feeds,
          first.signer = second.signer → first.carries feed = true →
          second.carries feed = true → first = second := by
  intro disjoint
  let packages := [samplePackage "BTC" ["BTC"], samplePackage "MAIN" ["ETH", "BTC"]]
  have listed := listed_sample packages (by decide +kernel)
  have has : ∀ feed ∈ ["ETH", "BTC"],
      (sampleRequest.select [("primary", packages)]).has feed = true := by
    simp only [PackageSet.has_iff, listed]
    decide +kernel
  have silent : ∀ feed ∈ ["ETH", "BTC"],
      disjointness feed (sampleRequest.select [("primary", packages)]) = [] := by
    simp only [disjointness_nil_iff, listed]
    decide +kernel
  have both : ∀ package ∈ packages,
      package ∈ (sampleRequest.select [("primary", packages)]).packagesFor ["ETH", "BTC"] ∧
        package.carries "BTC" = true := by
    simp only [PackageSet.packagesFor, listed]
    decide +kernel
  obtain ⟨first, firstCarries⟩ := both (samplePackage "BTC" ["BTC"]) (by simp [packages])
  obtain ⟨second, secondCarries⟩ := both (samplePackage "MAIN" ["ETH", "BTC"]) (by simp [packages])
  have same := disjoint sampleRequest _ ["ETH", "BTC"] has silent "BTC" (by simp) _ first _ second
    rfl firstCarries secondCarries
  have ids : "BTC" = "MAIN" := congrArg Package.id same
  exact absurd ids (by decide)

end Condition

end PriceRelay
