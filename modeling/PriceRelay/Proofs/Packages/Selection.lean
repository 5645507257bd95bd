import PriceRelay.Proofs.Packages.Lookup
import PriceRelay.Proofs.Packages.Needed
import PriceRelay.Proofs.Packages.Repeats
import PriceRelay.Request
/-!
What is chosen from a gateway's answer: for each feed that has packages in the set, packages of the
answer that carry it, of as many signers as were asked for, none of them twice.
-/

namespace PriceRelay.Request

theorem firstOfEach_eq (seen : List Address) (packages : List Package) :
    firstOfEach seen packages = Package.firstBy (·.signer) seen packages := by
  induction packages generalizing seen with
  | nil => rfl
  | cons package rest ih => rw [firstOfEach, Package.firstBy, ih, ih]

/-- The packages chosen for a feed from an answer. -/
structure Chosen (request : Request) (answer : List (String × List Package)) (feed : FeedId)
    (packages : List Package) : Prop where
  requested : feed ∈ request.feeds
  answered : ∀ package ∈ packages, package ∈ answer.flatMap (·.2)
  authorized : ∀ package ∈ packages, request.authorizes package.signer = true
  carries : ∀ package ∈ packages, package.carries feed = true
  signers : (packages.map (·.signer)).Nodup
  enough : request.signers.toNat ≤ packages.length

section

variable {request : Request} {packages chosen : List Package}
  {answer : List (String × List Package)} {feed : FeedId}

theorem chosen?_eq_some (found : request.chosen? packages = some chosen) :
    chosen.Sublist packages ∧ (chosen.map (·.signer)).Nodup ∧
      request.signers.toNat ≤ chosen.length := by
  simp only [chosen?, firstOfEach_eq] at found
  split at found
  case isTrue => cases found
  case isFalse enough =>
    obtain rfl := Option.some.inj found
    have kept := List.take_sublist (max request.signers.toNat 1)
      (Package.firstBy (·.signer) [] packages)
    refine ⟨kept.trans (Package.firstBy_sublist _ [] packages), ?_, Nat.le_of_not_lt enough⟩
    exact (kept.map _).nodup (Package.firstBy_marks _ [] packages).1

theorem mem_candidates_iff {package : Package} :
    package ∈ request.candidates packages ↔
      package ∈ packages ∧ request.authorizes package.signer = true := by
  rw [candidates, List.mem_mergeSort, List.mem_filter]

theorem candidates_of_ordered (ordered : packages.Pairwise (before · ·))
    (authorized : ∀ package ∈ packages, request.authorizes package.signer = true) :
    request.candidates packages = packages := by
  rw [candidates, List.filter_eq_self.mpr authorized]
  exact List.mergeSort_of_pairwise ordered

/-- Each requested feed gets its own choice, whatever the others get. -/
theorem find?_select (request : Request) (answer : List (String × List Package)) (feed : FeedId) :
    (request.select answer).find? feed =
      if feed ∈ request.feeds then
        ((PackageSet.ofPackages (request.candidates (answer.flatMap (·.2))) request.feeds).get?
          feed).bind request.chosen?
      else none := by
  simp only [select]
  generalize PackageSet.ofPackages (request.candidates (answer.flatMap (·.2))) request.feeds =
    indexed
  rw [FeedMap.find?_foldl fun feed => (indexed.get? feed).bind request.chosen?]
  · simp
  · intro set feed other
    cases indexed.get? feed with
    | none => by_cases same : other = feed <;> simp [same]
    | some packages =>
      cases chosen : request.chosen? packages <;> by_cases same : other = feed <;>
        simp [chosen, same]

theorem chosen?_nil : (request.chosen? []).getD [] = [] := by
  simp only [chosen?, firstOfEach, List.take_nil]
  split <;> rfl

theorem listed_select_eq (request : Request) (answer : List (String × List Package))
    (feed : FeedId) :
    (request.select answer).listed feed =
      if feed ∈ request.feeds then
        (request.chosen? ((request.candidates (answer.flatMap (·.2))).filter
          (·.carries feed))).getD []
      else [] := by
  rw [PackageSet.listed_eq, find?_select]
  split
  case isFalse => rfl
  case isTrue requested =>
    have carrying := PackageSet.listed_ofPackages (request.candidates (answer.flatMap (·.2)))
      request.feeds feed
    rw [if_pos requested, PackageSet.listed] at carrying
    cases found : (PackageSet.ofPackages (request.candidates (answer.flatMap (·.2)))
        request.feeds).get? feed with
    | none =>
      rw [found] at carrying
      rw [← carrying]
      exact chosen?_nil.symm
    | some packages =>
      rw [found] at carrying
      rw [← carrying]
      rfl

/-- What is listed under a feed of the set was chosen for it. -/
theorem listed_select (has : (request.select answer).has feed = true) :
    request.Chosen answer feed ((request.select answer).listed feed) := by
  have nonempty := (PackageSet.has_iff _ feed).mp has
  rw [listed_select_eq] at nonempty ⊢
  split at nonempty
  case isFalse => exact absurd rfl nonempty
  case isTrue requested =>
    rw [if_pos requested]
    cases choice : request.chosen? ((request.candidates (answer.flatMap (·.2))).filter
        (·.carries feed)) with
    | none =>
      rw [choice] at nonempty
      exact absurd rfl nonempty
    | some chosen =>
      obtain ⟨kept, signers, enough⟩ := chosen?_eq_some choice
      have origin : ∀ package ∈ chosen, (package ∈ answer.flatMap (·.2) ∧
          request.authorizes package.signer = true) ∧ package.carries feed = true := by
        intro package member
        have among := kept.subset member
        rw [List.mem_filter, mem_candidates_iff] at among
        exact among
      exact ⟨requested, fun package member => (origin package member).1.1,
        fun package member => (origin package member).1.2,
        fun package member => (origin package member).2, signers, enough⟩

end

end PriceRelay.Request
