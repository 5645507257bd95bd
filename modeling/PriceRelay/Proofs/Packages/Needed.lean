import PriceRelay.PackageSet
import PriceRelay.Proofs.Lists
import PriceRelay.Proofs.Packages.Repeats
/-!
The packages of a feed, and those that several feeds need. A feed is as old as its oldest package.
The packages needed for some feeds are listed under them, and every feed with packages needs some.
No two of them have the same key, and of every key there is one.
-/

namespace PriceRelay.PackageSet

theorem has_iff (set : PackageSet) (feed : FeedId) :
    set.has feed = true ↔ set.listed feed ≠ [] := by
  simp only [has, listed, get?]
  cases found : set.find? feed with
  | none => simp
  | some packages => cases packages <;> simp [Option.filter]

theorem any_lt_timestamp?_iff (set : PackageSet) (feed : FeedId) (bound : Millis) :
    (set.timestamp? feed).any (bound < ·) = true ↔
      set.listed feed ≠ [] ∧ ∀ package ∈ set.listed feed, bound < package.timestamp := by
  rw [timestamp?, any_lt_min?_iff]
  simp

theorem dropRepeats_eq (seen : List (String × Address)) (packages : List Package) :
    dropRepeats seen packages = Package.firstBy key seen packages := by
  induction packages generalizing seen with
  | nil => rfl
  | cons package rest ih => rw [dropRepeats, Package.firstBy, ih, ih]

/-- Only packages of those feeds are needed. -/
theorem listed_of_mem_packagesFor {set : PackageSet} {feeds : List FeedId} {package : Package}
    (member : package ∈ set.packagesFor feeds) : ∃ feed ∈ feeds, package ∈ set.listed feed := by
  rw [packagesFor, dropRepeats_eq] at member
  exact List.mem_flatMap.mp ((Package.firstBy_sublist key [] _).subset member)

theorem packagesFor_keys (set : PackageSet) (feeds : List FeedId) :
    ((set.packagesFor feeds).map key).Nodup := by
  rw [packagesFor, dropRepeats_eq]
  exact (Package.firstBy_marks key [] _).1

/-- A package listed under one of the feeds is needed, or another one of its key is. -/
theorem exists_packagesFor {set : PackageSet} {feeds : List FeedId} {feed : FeedId}
    {package : Package} (wanted : feed ∈ feeds) (listed : package ∈ set.listed feed) :
    ∃ kept ∈ set.packagesFor feeds, key kept = key package := by
  rw [packagesFor, dropRepeats_eq]
  exact Package.exists_firstBy (List.mem_flatMap.mpr ⟨feed, wanted, listed⟩) List.not_mem_nil

end PriceRelay.PackageSet
