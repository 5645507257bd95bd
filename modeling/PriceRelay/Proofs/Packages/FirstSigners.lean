import PriceRelay.Proofs.Packages.Order
import PriceRelay.Proofs.Packages.Threshold
/-!
Which packages are chosen for a feed. An answer offers a feed the authorized packages that carry it;
chosen are the first of them by different signers, in the order of package id and signer. A
requested feed is in the set exactly if enough signers offer a package, and then as many as needed
are listed.
-/

namespace PriceRelay.Request

open PackageSet (key)

/-- The authorized packages of an answer that carry a feed, in the order in which they are
visited. -/
def offers (request : Request) (answer : List (String × List Package)) (feed : FeedId) :
    List Package :=
  (answer.flatMap (·.2)).filter fun package =>
    request.authorizes package.signer && package.carries feed

/-- Packages of different signers. Each of them comes first among the offers of the signers that do
not stand before it; of the offers with its id and signer it was visited first. -/
structure FirstSigners (offers chosen : List Package) : Prop where
  signers : (chosen.map (·.signer)).Nodup
  first : ∀ earlier package later, chosen = earlier ++ package :: later →
    ∀ rival ∈ offers, rival.signer ∉ earlier.map (·.signer) → before package rival = true
  visited : ∀ package ∈ chosen,
    offers.find? (fun other => key other == key package) = some package

namespace FirstSigners

variable {offers chosen : List Package}

theorem offered (first : FirstSigners offers chosen) {package : Package}
    (member : package ∈ chosen) : package ∈ offers :=
  List.mem_of_find?_eq_some (first.visited package member)

protected theorem take (first : FirstSigners offers chosen) (count : Nat) :
    FirstSigners offers (chosen.take count) where
  signers := ((List.take_sublist count chosen).map _).nodup first.signers
  first earlier package later split := by
    apply first.first earlier package (later ++ chosen.drop count)
    calc chosen
      _ = chosen.take count ++ chosen.drop count := (List.take_append_drop count chosen).symm
      _ = earlier ++ package :: (later ++ chosen.drop count) := by rw [split]; simp
  visited package member := first.visited package (List.mem_of_mem_take member)

end FirstSigners

theorem filter_mergeSort {holds : Package → Bool}
    (tied : ∀ a b, holds a = true → holds b = true → key a = key b) (packages : List Package) :
    (packages.mergeSort before).filter holds = packages.filter holds := by
  have ordered : (packages.filter holds).Pairwise (before · ·) := by
    apply List.pairwise_of_forall_mem_list
    intro a first b second
    exact before_of_key (tied a b (List.mem_filter.mp first).2 (List.mem_filter.mp second).2)
  have kept : (packages.filter holds).Sublist (packages.mergeSort before) :=
    List.sublist_mergeSort before_trans before_total ordered List.filter_sublist
  have sublist : (packages.filter holds).Sublist ((packages.mergeSort before).filter holds) := by
    simpa using kept.filter holds
  have length := ((List.mergeSort_perm packages before).filter holds).length_eq
  exact (sublist.eq_of_length length.symm).symm

/-- The offers of a feed in the order of package id and signer. -/
def rankedOffers (request : Request) (answer : List (String × List Package)) (feed : FeedId) :
    List Package :=
  (request.candidates (answer.flatMap (·.2))).filter (·.carries feed)

section

variable {request : Request} {answer : List (String × List Package)} {feed : FeedId}

theorem mem_offers_iff {package : Package} :
    package ∈ request.offers answer feed ↔ package ∈ answer.flatMap (·.2) ∧
      request.authorizes package.signer = true ∧ package.carries feed = true := by
  rw [offers, List.mem_filter, Bool.and_eq_true]

theorem mem_rankedOffers_iff {package : Package} :
    package ∈ request.rankedOffers answer feed ↔ package ∈ request.offers answer feed := by
  rw [rankedOffers, List.mem_filter, mem_candidates_iff, mem_offers_iff, and_assoc]

theorem rankedOffers_ordered (request : Request) (answer : List (String × List Package))
    (feed : FeedId) : (request.rankedOffers answer feed).Pairwise (before · ·) :=
  (List.pairwise_mergeSort before_trans before_total _).filter _

theorem find?_rankedOffers (request : Request) (answer : List (String × List Package))
    (feed : FeedId) (own : String × Address) :
    (request.rankedOffers answer feed).find? (fun other => key other == own) =
      (request.offers answer feed).find? (fun other => key other == own) := by
  have sorted : ((request.candidates (answer.flatMap (·.2))).filter fun other =>
      key other == own && other.carries feed) =
      ((answer.flatMap (·.2)).filter fun package => request.authorizes package.signer).filter
        fun other => key other == own && other.carries feed := by
    apply filter_mergeSort
    intro a b first second
    simp only [Bool.and_eq_true, beq_iff_eq] at first second
    rw [first.1, second.1]
  rw [← List.head?_filter, ← List.head?_filter, rankedOffers, List.filter_filter, sorted, offers,
    List.filter_filter, List.filter_filter]
  congr 2
  funext other
  rw [Bool.and_assoc, Bool.and_comm (other.carries feed)]

def signerOffers (request : Request) (answer : List (String × List Package)) (feed : FeedId) :
    List Package :=
  Package.firstBy (·.signer) [] (request.rankedOffers answer feed)

theorem mem_offers_of_signerOffers {package : Package}
    (member : package ∈ request.signerOffers answer feed) :
    package ∈ request.offers answer feed :=
  mem_rankedOffers_iff.mp ((Package.firstBy_sublist _ [] _).subset member)

theorem signerOffers_firstSigners (request : Request) (answer : List (String × List Package))
    (feed : FeedId) :
    FirstSigners (request.offers answer feed) (request.signerOffers answer feed) where
  signers := (Package.firstBy_marks _ [] _).1
  first earlier package later split rival offered new := by
    have ranked := mem_rankedOffers_iff.mpr offered
    rcases Package.firstBy_first (request.rankedOffers_ordered answer feed) split ranked
      List.not_mem_nil new with rfl | ordered
    · exact before_of_key rfl
    · exact ordered
  visited package member := by
    rw [← find?_rankedOffers]
    have found := Package.find?_of_mem_firstBy member
    rw [List.find?_eq_some_iff_append] at found ⊢
    obtain ⟨_, passed, rest, same, others⟩ := found
    refine ⟨beq_self_eq_true _, passed, rest, same, fun other among => ?_⟩
    have different : other.signer ≠ package.signer := by simpa using others other among
    have apart : key other ≠ key package := fun equal => different (congrArg Prod.snd equal)
    simpa using apart

/-- So many signers offer a package as there are first offers. -/
theorem observedBy_offers_iff {count : Nat} :
    ObservedBy feed count (request.offers answer feed) ↔
      count ≤ (request.signerOffers answer feed).length := by
  constructor
  · rintro ⟨signers, distinct, enough, observed⟩
    refine Nat.le_trans enough (Package.le_length_firstBy distinct fun signer member => ?_)
    obtain ⟨package, offered, own, _⟩ := observed signer member
    exact ⟨package, mem_rankedOffers_iff.mpr offered, own⟩
  · intro enough
    refine ⟨(request.signerOffers answer feed).map (·.signer),
      (request.signerOffers_firstSigners answer feed).signers, by simpa using enough, ?_⟩
    intro signer member
    obtain ⟨package, among, rfl⟩ := List.mem_map.mp member
    have offered := mem_offers_of_signerOffers among
    exact ⟨package, offered, rfl, (mem_offers_iff.mp offered).2.2⟩

/-- How many packages a listed feed has. -/
def wanted (request : Request) : Nat := max request.signers.toNat 1

/-- The first packages of so many signers are chosen, or none. -/
theorem chosen?_eq (request : Request) (packages : List Package) :
    (request.chosen? packages).getD [] =
      if request.wanted ≤ (Package.firstBy (·.signer) [] packages).length then
        (Package.firstBy (·.signer) [] packages).take request.wanted
      else [] := by
  have atLeast : request.signers.toNat ≤ request.wanted := Nat.le_max_left ..
  rw [chosen?, firstOfEach_eq]
  generalize Package.firstBy (·.signer) [] packages = first
  change (if (first.take request.wanted).length < request.signers.toNat then none
    else some (first.take request.wanted)).getD [] = _
  by_cases enough : request.wanted ≤ first.length
  · have length : (first.take request.wanted).length = request.wanted :=
      List.length_take_of_le enough
    rw [if_pos enough, length, if_neg (Nat.not_lt.mpr atLeast)]
    rfl
  · have whole : first.take request.wanted = first :=
      List.take_of_length_le (Nat.le_of_not_le enough)
    rw [if_neg enough, whole]
    split
    · rfl
    · -- no signer was asked for, and there is none
      rename_i met
      have none : first.length = 0 := by
        unfold wanted at enough
        omega
      exact List.length_eq_zero_iff.mp none

theorem listed_select_take (request : Request) (answer : List (String × List Package))
    (feed : FeedId) :
    (request.select answer).listed feed =
      if feed ∈ request.feeds ∧ request.wanted ≤ (request.signerOffers answer feed).length then
        (request.signerOffers answer feed).take request.wanted
      else [] := by
  rw [listed_select_eq, chosen?_eq]
  by_cases requested : feed ∈ request.feeds
  · simp only [requested, true_and, if_true]
    rfl
  · simp [requested]

theorem listed_firstSigners (request : Request) (answer : List (String × List Package))
    (feed : FeedId) :
    FirstSigners (request.offers answer feed) ((request.select answer).listed feed) := by
  rw [listed_select_take]
  split
  · exact (request.signerOffers_firstSigners answer feed).take request.wanted
  · exact ⟨.nil, by simp, by simp⟩

theorem length_listed_select (request : Request) (answer : List (String × List Package))
    (feed : FeedId) :
    ((request.select answer).listed feed).length =
      if feed ∈ request.feeds ∧ request.wanted ≤ (request.signerOffers answer feed).length then
        request.wanted
      else 0 := by
  rw [listed_select_take]
  split
  · rename_i enough
    exact List.length_take_of_le enough.2
  · rfl

theorem chosen?_ne_nil {packages chosen : List Package} (nonempty : packages ≠ [])
    (found : request.chosen? packages = some chosen) : chosen ≠ [] := by
  obtain ⟨package, member⟩ := List.exists_mem_of_ne_nil _ nonempty
  rw [chosen?, firstOfEach_eq] at found
  split at found
  case isTrue => cases found
  obtain rfl := Option.some.inj found
  intro empty
  rcases List.take_eq_nil_iff.mp empty with none | nothing
  · omega
  · have fresh : package.signer ∉ [] := List.not_mem_nil
    obtain ⟨kept, left, _⟩ := Package.exists_firstBy member fresh
    exact List.ne_nil_of_mem left nothing

theorem find?_select_ne_nil {packages : List Package}
    (found : (request.select answer).find? feed = some packages) : packages ≠ [] := by
  rw [find?_select] at found
  split at found
  case isFalse => cases found
  obtain ⟨indexed, present, chosen⟩ := Option.bind_eq_some_iff.mp found
  apply chosen?_ne_nil _ chosen
  have kept := (Option.filter_eq_some_iff.mp present).2
  simpa using kept

end

end PriceRelay.Request
