import PriceRelay.Proofs.Packages.Lookup
import PriceRelay.Proofs.Packages.Needed
/-!
Packages under their feeds. A requested feed has an entry exactly if some package carries it, and
the entry lists these packages in the order in which they came. So feeds share packages both ways,
and the oldest timestamp of a feed is that of the packages that carry it.
-/

namespace PriceRelay.PackageSet

/-- Some package of a feed carries another feed of the set. -/
structure Shares (set : PackageSet) (feed other : FeedId) : Prop where
  different : other ≠ feed
  listed : set.listed other ≠ []
  carried : ∃ package ∈ set.listed feed, package.carries other = true

theorem mem_sharing_iff {set : PackageSet} {feed other : FeedId} :
    other ∈ set.sharing feed ↔ set.Shares feed other := by
  have carried : other ∈ (set.listed feed).flatMap (fun package => package.points.map (·.feed)) ↔
      ∃ package ∈ set.listed feed, package.carries other = true := by
    simp [List.mem_flatMap, Package.carries]
  rw [sharing, mem_distinctFeeds_iff, List.mem_filter, carried]
  simp only [Bool.and_eq_true, decide_eq_true_eq, has_iff]
  constructor
  · rintro ⟨carries, different, listed⟩
    exact ⟨different, listed, carries⟩
  · rintro ⟨different, listed, carries⟩
    exact ⟨carries, different, listed⟩

def Filled (set : PackageSet) : Prop := ∀ feed, set.find? feed ≠ some []

theorem filled_empty : Filled FeedMap.empty := by
  intro feed
  rw [FeedMap.find?_empty]
  nofun

theorem Filled.adjust {set : PackageSet} (filled : set.Filled) (feed : FeedId) (package : Package) :
    Filled (set.adjust feed [] (· ++ [package])) := by
  intro other
  rw [FeedMap.adjust, FeedMap.find?_insert]
  split
  · simp
  · exact filled other

theorem ofPackages_filled (packages : List Package) (requested : List FeedId) :
    (ofPackages packages requested).Filled := by
  refine List.foldlRecOn packages _ filled_empty ?_
  intro set filled package _
  exact List.foldlRecOn _ _ filled fun set filled feed _ => filled.adjust feed package

theorem Filled.mem_feeds_iff {set : PackageSet} (filled : set.Filled) {feed : FeedId} :
    feed ∈ set.feeds ↔ set.listed feed ≠ [] := by
  rw [FeedMap.mem_feeds_iff, listed_eq]
  cases found : set.find? feed with
  | none => simp
  | some packages =>
    have nonempty : packages ≠ [] := fun empty => filled feed (by rw [found, empty])
    simp [nonempty]

section

variable {packages : List Package} {requested : List FeedId} {feed other : FeedId}

theorem mem_listed_ofPackages_iff {package : Package} :
    package ∈ (ofPackages packages requested).listed feed ↔
      feed ∈ requested ∧ package ∈ packages ∧ package.carries feed = true := by
  rw [listed_ofPackages]
  split <;> simp [*]

theorem listed_ofPackages_ne_nil_iff :
    (ofPackages packages requested).listed feed ≠ [] ↔
      feed ∈ requested ∧ ∃ package ∈ packages, package.carries feed = true := by
  constructor
  · intro listed
    obtain ⟨package, under⟩ := List.exists_mem_of_ne_nil _ listed
    obtain ⟨wanted, member, carries⟩ := mem_listed_ofPackages_iff.mp under
    exact ⟨wanted, package, member, carries⟩
  · rintro ⟨wanted, package, member, carries⟩
    exact List.ne_nil_of_mem (mem_listed_ofPackages_iff.mpr ⟨wanted, member, carries⟩)

/-- Feeds share where both are requested and one package carries both. -/
theorem mem_sharing_ofPackages_iff :
    other ∈ (ofPackages packages requested).sharing feed ↔
      other ≠ feed ∧ feed ∈ requested ∧ other ∈ requested ∧
        ∃ package ∈ packages, package.carries feed = true ∧ package.carries other = true := by
  rw [mem_sharing_iff]
  constructor
  · rintro ⟨different, listed, package, under, carries⟩
    obtain ⟨wanted, member, own⟩ := mem_listed_ofPackages_iff.mp under
    exact ⟨different, wanted, (listed_ofPackages_ne_nil_iff.mp listed).1, package, member, own,
      carries⟩
  · rintro ⟨different, wanted, also, package, member, own, carries⟩
    exact ⟨different, listed_ofPackages_ne_nil_iff.mpr ⟨also, package, member, carries⟩, package,
      mem_listed_ofPackages_iff.mpr ⟨wanted, member, own⟩, carries⟩

theorem sharing_ofPackages_symm (shares : other ∈ (ofPackages packages requested).sharing feed) :
    feed ∈ (ofPackages packages requested).sharing other := by
  rw [mem_sharing_ofPackages_iff] at shares ⊢
  obtain ⟨different, wanted, also, package, member, own, carries⟩ := shares
  exact ⟨different.symm, also, wanted, package, member, carries, own⟩

theorem timestamp?_ofPackages_iff {oldest : Millis} :
    (ofPackages packages requested).timestamp? feed = some oldest ↔
      feed ∈ requested ∧
        (∃ package ∈ packages, package.carries feed = true ∧ package.timestamp = oldest) ∧
        ∀ package ∈ packages, package.carries feed = true → oldest ≤ package.timestamp := by
  rw [timestamp?, List.min?_eq_some_iff, List.mem_map, List.forall_mem_map]
  simp only [mem_listed_ofPackages_iff]
  constructor
  · rintro ⟨⟨package, ⟨wanted, member, carries⟩, same⟩, least⟩
    exact ⟨wanted, ⟨package, member, carries, same⟩,
      fun other among carries => least other ⟨wanted, among, carries⟩⟩
  · rintro ⟨wanted, ⟨package, member, carries, same⟩, least⟩
    exact ⟨⟨package, ⟨wanted, member, carries⟩, same⟩,
      fun other among => least other among.2.1 among.2.2⟩

end

/-- Under a requested feed stand the packages that carry it, in their order and as often as they
came; under any other feed there is nothing, and no entry is empty. Two feeds share packages both
ways: where both are requested and one package carries both. The oldest timestamp of a feed is that
of the packages that carry it. -/
theorem ofPackages_lists (packages : List Package) (requested : List FeedId) :
    let set := ofPackages packages requested
    (∀ feed, set.listed feed =
      if feed ∈ requested then packages.filter (·.carries feed) else []) ∧
    (∀ feed, feed ∈ set.feeds ↔
      feed ∈ requested ∧ ∃ package ∈ packages, package.carries feed = true) ∧
    (∀ feed other, other ∈ set.sharing feed ↔ feed ∈ set.sharing other) ∧
    (∀ feed other, other ∈ set.sharing feed ↔
      other ≠ feed ∧ feed ∈ requested ∧ other ∈ requested ∧
        ∃ package ∈ packages, package.carries feed = true ∧ package.carries other = true) ∧
    (∀ feed oldest, set.timestamp? feed = some oldest ↔
      feed ∈ requested ∧
        (∃ package ∈ packages, package.carries feed = true ∧ package.timestamp = oldest) ∧
        ∀ package ∈ packages, package.carries feed = true → oldest ≤ package.timestamp) := by
  intro set
  refine ⟨listed_ofPackages packages requested, ?_, ?_,
    fun _ _ => mem_sharing_ofPackages_iff, fun _ _ => timestamp?_ofPackages_iff⟩
  · intro feed
    exact (ofPackages_filled packages requested).mem_feeds_iff.trans listed_ofPackages_ne_nil_iff
  · intro feed other
    exact ⟨sharing_ofPackages_symm, sharing_ofPackages_symm⟩

/-- A package with two observations of a feed is listed once, and again where it comes again. -/
example :
    let twice : Package :=
      { id := "MAIN", timestamp := 1000, signer := default, signature := []
        points := ["ETH", "ETH", "BTC"].map fun feed => { feed, value := 1.0 } }
    (ofPackages [twice, twice] ["ETH", "SOL"]).entries = [("ETH", [twice, twice])] := by
  decide +kernel

end PriceRelay.PackageSet
