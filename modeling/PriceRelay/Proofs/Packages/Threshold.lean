import PriceRelay.Proofs.Packages.Needed
import PriceRelay.Proofs.Packages.Selection
/-!
How many signers a payload shows for a feed. Under each feed of a set that was chosen stand packages
of as many signers as were asked for. A payload shows as many, unless one of these packages is taken
for the repeat of another that does not carry the feed.
-/

namespace PriceRelay

/-- Some packages show observations of a feed by so many signers, or more. -/
def ObservedBy (feed : FeedId) (count : Nat) (packages : List Package) : Prop :=
  ∃ signers : List Address, signers.Nodup ∧ count ≤ signers.length ∧
    ∀ signer ∈ signers, ∃ package ∈ packages,
      package.signer = signer ∧ package.carries feed = true

namespace Request

section

variable {request : Request} {answer : List (String × List Package)} {feed : FeedId}
  {packages kept : List Package}

/-- Packages in whose place others of the same signers stand, which carry the feed as well. -/
theorem Chosen.observed_by (chosen : request.Chosen answer feed packages)
    (placed : ∀ package ∈ packages, ∃ other ∈ kept,
      other.signer = package.signer ∧ other.carries feed = true) :
    ObservedBy feed request.signers.toNat kept := by
  refine ⟨packages.map (·.signer), chosen.signers, ?_, ?_⟩
  · rw [List.length_map]
    exact chosen.enough
  · intro signer member
    obtain ⟨package, among, rfl⟩ := List.mem_map.mp member
    exact placed package among

theorem Chosen.observed (chosen : request.Chosen answer feed packages) :
    ObservedBy feed request.signers.toNat packages := by
  apply chosen.observed_by
  intro package member
  exact ⟨package, member, rfl, chosen.carries package member⟩

end

/-- A payload has one package of each key that is listed under its feeds. So it shows as many
signers for a feed as were asked for, if the packages that stand for those of the feed carry it. -/
theorem select_packagesFor (request : Request) (answer : List (String × List Package))
    (feeds : List FeedId) :
    let set := request.select answer
    ((set.packagesFor feeds).map PackageSet.key).Nodup ∧
    ∀ feed ∈ feeds, set.has feed = true →
      ObservedBy feed request.signers.toNat (set.listed feed) ∧
      (∀ package ∈ set.listed feed, ∃ kept ∈ set.packagesFor feeds,
        PackageSet.key kept = PackageSet.key package) ∧
      ((∀ package ∈ set.listed feed, ∀ kept ∈ set.packagesFor feeds,
          PackageSet.key kept = PackageSet.key package → kept.carries feed = true) →
        ObservedBy feed request.signers.toNat (set.packagesFor feeds)) := by
  intro set
  refine ⟨set.packagesFor_keys feeds, ?_⟩
  intro feed wanted has
  have chosen : request.Chosen answer feed (set.listed feed) := listed_select has
  refine ⟨chosen.observed, fun package => PackageSet.exists_packagesFor wanted, ?_⟩
  intro carried
  apply chosen.observed_by
  intro package listed
  obtain ⟨kept, member, same⟩ := PackageSet.exists_packagesFor wanted listed
  exact ⟨kept, member, congrArg Prod.snd same, carried package listed kept member same⟩

def sampleRequest : Request := { service := "primary", signers := 1, feeds := ["ETH", "BTC"] }

def samplePackage (id : String) (feeds : List FeedId) : Package :=
  { id, timestamp := 1000, signer := FixedBytes.ofNat 20 1
    points := feeds.map fun feed => { feed, value := 1.0 }, signature := [] }

theorem listed_sample (packages : List Package) (ordered : packages.Pairwise (before · ·)) :
    (sampleRequest.select [("primary", packages)]).listed = fun feed =>
      if feed ∈ sampleRequest.feeds then
        (sampleRequest.chosen? (packages.filter (·.carries feed))).getD []
      else [] := by
  have all : [("primary", packages)].flatMap (·.2) = packages := by simp
  funext feed
  rw [listed_select_eq, all, candidates_of_ordered ordered fun _ _ => rfl]

/-- A package that two feeds share stands in the payload for both. -/
theorem select_packagesFor_shared :
    let set := sampleRequest.select [("primary", [samplePackage "MAIN" ["ETH", "BTC"]])]
    set.has "BTC" = true ∧ ObservedBy "BTC" 1 (set.packagesFor ["ETH", "BTC"]) := by
  intro set
  have listed := listed_sample [samplePackage "MAIN" ["ETH", "BTC"]] (by decide +kernel)
  have has : set.has "BTC" = true := by
    rw [PackageSet.has_iff, listed]
    decide +kernel
  have law := (select_packagesFor sampleRequest _ ["ETH", "BTC"]).2 "BTC" (by decide) has
  refine ⟨has, law.2.2 ?_⟩
  rw [PackageSet.packagesFor, listed]
  decide +kernel

/-- Two packages of one signer with one id need not carry the same feeds. Then the feed of the
second one is not in the payload, although the set has it. -/
theorem select_packagesFor_loses :
    ¬∀ (request : Request) (answer : List (String × List Package)) (feeds : List FeedId),
      1 ≤ request.signers.toNat → (∀ feed ∈ feeds, (request.select answer).has feed = true) →
      ∀ feed ∈ feeds,
        ObservedBy feed request.signers.toNat ((request.select answer).packagesFor feeds) := by
  intro kept
  let packages := [samplePackage "MAIN" ["ETH"], samplePackage "MAIN" ["BTC"]]
  have listed := listed_sample packages (by decide +kernel)
  have has : ∀ feed ∈ ["ETH", "BTC"],
      (sampleRequest.select [("primary", packages)]).has feed = true := by
    simp only [PackageSet.has_iff, listed]
    decide +kernel
  obtain ⟨signers, _, enough, observed⟩ :=
    kept sampleRequest [("primary", packages)] ["ETH", "BTC"] (by decide) has "BTC" (by decide)
  obtain ⟨signer, member⟩ := List.exists_mem_of_length_pos (Nat.lt_of_lt_of_le (by decide) enough)
  obtain ⟨package, among, _, carries⟩ := observed signer member
  have none : ∀ package ∈ (sampleRequest.select [("primary", packages)]).packagesFor ["ETH", "BTC"],
      package.carries "BTC" = false := by
    rw [PackageSet.packagesFor, listed]
    decide +kernel
  rw [none package among] at carries
  cases carries

end Request

end PriceRelay
