import PriceRelay.Proofs.Packages.FirstSigners
/-!
What depends on the order in which the entries of an answer are visited. The feeds of the set that
is chosen do not, nor do the ids and signers of the packages listed under them. Where several
packages have one id and one signer, the first that is visited is taken: so the order decides
between packages of different entries, and between no others.
-/

namespace PriceRelay

theorem ObservedBy.mono {feed : FeedId} {count : Nat} {packages larger : List Package}
    (observed : ObservedBy feed count packages) (subset : packages ⊆ larger) :
    ObservedBy feed count larger := by
  obtain ⟨signers, distinct, enough, each⟩ := observed
  refine ⟨signers, distinct, enough, fun signer member => ?_⟩
  obtain ⟨package, among, own⟩ := each signer member
  exact ⟨package, subset among, own⟩

namespace Request

open PackageSet (key)

section

variable {offers others chosen picked : List Package}

theorem FirstSigners.fresh (first : FirstSigners offers chosen) {earlier later : List Package}
    {package : Package} (split : chosen = earlier ++ package :: later) :
    package.signer ∉ earlier.map (·.signer) := by
  intro again
  have distinct := first.signers
  rw [split, List.map_append, List.map_cons] at distinct
  exact (List.nodup_append.mp distinct).2.2 _ again _ List.mem_cons_self rfl

/-- Two choices from the same offers that began with the same ids and signers go on with the same,
as far as they go. -/
theorem FirstSigners.keys_from (same : ∀ package, package ∈ offers ↔ package ∈ others)
    (first : FirstSigners offers chosen) (second : FirstSigners others picked)
    {earlier later done rest : List Package} (split : chosen = earlier ++ later)
    (parted : picked = done ++ rest) (begun : earlier.map key = done.map key)
    (length : later.length = rest.length) : later.map key = rest.map key := by
  induction later generalizing earlier done rest with
  | nil => rw [List.length_eq_zero_iff.mp length.symm]
  | cons package later ih =>
    cases rest with
    | nil => cases length
    | cons rival rest =>
      have signers : earlier.map (·.signer) = done.map (·.signer) := by
        have signers := congrArg (List.map Prod.snd) begun
        rwa [List.map_map, List.map_map] at signers
      -- each of the two comes before the other, since neither signer is taken yet
      have ahead : before package rival = true := by
        apply first.first earlier package later split rival
        · exact (same rival).mpr (second.offered (by simp [parted]))
        · rw [signers]
          exact second.fresh parted
      have behind : before rival package = true := by
        apply second.first done rival rest parted package
        · exact (same package).mp (first.offered (by simp [split]))
        · rw [← signers]
          exact first.fresh split
      have head : key package = key rival := key_eq_of_before ahead behind
      have tail : later.map key = rest.map key := by
        refine @ih (earlier ++ [package]) (done ++ [rival]) rest ?_ ?_ ?_ ?_
        · simp [split]
        · simp [parted]
        · simp [begun, head]
        · simpa using length
      rw [List.map_cons, List.map_cons, head, tail]

theorem FirstSigners.keys_eq (same : ∀ package, package ∈ offers ↔ package ∈ others)
    (first : FirstSigners offers chosen) (second : FirstSigners others picked)
    (length : chosen.length = picked.length) : chosen.map key = picked.map key :=
  first.keys_from same second (List.nil_append chosen).symm (List.nil_append picked).symm rfl length

end

section

variable {request : Request} {answer order : List (String × List Package)} {feed : FeedId}

theorem offers_perm (feed : FeedId) (permuted : order.Perm answer) :
    (request.offers order feed).Perm (request.offers answer feed) :=
  (permuted.flatMap_right _).filter _

theorem length_signerOffers (permuted : order.Perm answer) :
    (request.signerOffers order feed).length = (request.signerOffers answer feed).length := by
  have offers := request.offers_perm feed permuted
  apply Nat.le_antisymm
  · exact observedBy_offers_iff.mp ((observedBy_offers_iff.mpr (Nat.le_refl _)).mono offers.subset)
  · exact observedBy_offers_iff.mp
      ((observedBy_offers_iff.mpr (Nat.le_refl _)).mono offers.symm.subset)

theorem listed_keys (permuted : order.Perm answer) :
    ((request.select order).listed feed).map key =
      ((request.select answer).listed feed).map key := by
  apply (request.listed_firstSigners order feed).keys_eq
    (fun package => (offers_perm feed permuted).mem_iff) (request.listed_firstSigners answer feed)
  rw [length_listed_select, length_listed_select, length_signerOffers permuted]

/-- The first package of an entry that could stand for another: it carries the feed and has the
same id and signer. -/
def firstLike? (feed : FeedId) (package : Package) (entry : String × List Package) :
    Option Package :=
  entry.2.find? fun other => other.carries feed && key other == key package

/-- A listed package is the first of its id and signer in the first entry that has any. -/
theorem visited_of_listed {package : Package}
    (listed : package ∈ (request.select answer).listed feed) :
    answer.findSome? (firstLike? feed package) = some package := by
  have first := request.listed_firstSigners answer feed
  have authorized := (mem_offers_iff.mp (first.offered listed)).2.1
  have visited := first.visited package listed
  have asked : (fun other : Package => decide ((request.authorizes other.signer &&
      other.carries feed) = true ∧ (key other == key package) = true)) =
      fun other => other.carries feed && key other == key package := by
    funext other
    by_cases same : key other = key package
    · have signer : other.signer = package.signer := congrArg Prod.snd same
      simp [same, signer, authorized]
    · simp [same]
  rw [offers, List.find?_filter, List.find?_flatMap, asked] at visited
  exact visited

/-- A set that was chosen is known by what it lists. -/
theorem select_eq_of_listed
    (same : ∀ feed, (request.select order).listed feed = (request.select answer).listed feed) :
    request.select order = request.select answer := by
  apply FeedMap.ext_find?
  intro feed
  have listed := same feed
  rw [PackageSet.listed_eq, PackageSet.listed_eq] at listed
  cases first : (request.select order).find? feed with
  | none =>
    cases second : (request.select answer).find? feed with
    | none => rfl
    | some packages =>
      rw [first, second] at listed
      exact absurd listed.symm (find?_select_ne_nil second)
  | some packages =>
    cases second : (request.select answer).find? feed with
    | none =>
      rw [first, second] at listed
      exact absurd listed (find?_select_ne_nil first)
    | some others =>
      rw [first, second] at listed
      exact congrArg some listed

theorem eq_of_keys {first second : List Package} (keys : first.map key = second.map key)
    (same : ∀ package ∈ first, ∀ other ∈ second, key package = key other → package = other) :
    first = second := by
  induction first generalizing second with
  | nil => exact (List.map_eq_nil_iff.mp keys.symm).symm
  | cons package first ih =>
    cases second with
    | nil => cases keys
    | cons other second =>
      obtain ⟨head, tail⟩ := List.cons.inj keys
      rw [same package List.mem_cons_self other List.mem_cons_self head, ih tail fun one member
        another among => same one (.tail _ member) another (.tail _ among)]

end

/-- No entry of an answer has another package first for an id and signer that is listed. -/
def Unrivalled (request : Request) (answer : List (String × List Package)) : Prop :=
  ∀ feed, ∀ package ∈ (request.select answer).listed feed, ∀ entry ∈ answer, ∀ rival,
    firstLike? feed package entry = some rival → rival = package

section

variable {request : Request} {answer : List (String × List Package)}

theorem Unrivalled.select_eq (unrivalled : request.Unrivalled answer)
    {order : List (String × List Package)} (permuted : order.Perm answer) :
    request.select order = request.select answer := by
  apply select_eq_of_listed
  intro feed
  apply eq_of_keys (listed_keys permuted)
  intro rival member package listed same
  obtain ⟨entry, visited, found⟩ := List.exists_of_findSome?_eq_some (visited_of_listed member)
  have alike : firstLike? feed package entry = some rival := by
    rw [← found, firstLike?, firstLike?, same]
  exact unrivalled feed package listed entry (permuted.mem_iff.mp visited) rival alike

/-- A rival is taken where its entry is visited first. -/
theorem unrivalled_of_select_eq (steady : ∀ order : List (String × List Package),
    order.Perm answer → request.select order = request.select answer) :
    request.Unrivalled answer := by
  intro feed package listed entry member rival found
  obtain ⟨earlier, later, split⟩ := List.append_of_mem member
  have permuted : (entry :: (earlier ++ later)).Perm answer := by
    rw [split]
    exact List.perm_middle.symm
  rw [← steady _ permuted] at listed
  have visited := visited_of_listed listed
  rw [List.findSome?_cons, found] at visited
  exact Option.some.inj visited

theorem unrivalled_of_ids (distinct : (answer.map (·.1)).Nodup)
    (ids : ∀ entry ∈ answer, ∀ package ∈ entry.2, package.id = entry.1) :
    request.Unrivalled answer := by
  intro feed package listed entry member rival found
  obtain ⟨home, visited, first⟩ := List.exists_of_findSome?_eq_some (visited_of_listed listed)
  have id : rival.id = package.id := by
    have alike := List.find?_some found
    simp only [Bool.and_eq_true, beq_iff_eq] at alike
    exact congrArg Prod.fst alike.2
  have names : home.1 = entry.1 := by
    rw [← ids home visited package (List.mem_of_find?_eq_some first),
      ← ids entry member rival (List.mem_of_find?_eq_some found), id]
  have same : home = entry := List.inj_on_of_nodup_map distinct visited member names
  rw [same, found] at first
  exact Option.some.inj first

end

/-- Whatever the order in which the entries of an answer are visited, the same ids and signers are
listed under the same feeds. The sets are equal for all orders exactly if no entry has another
package first for an id and signer that is listed; so they are where every package is in the entry
of its id. -/
theorem select_visited (request : Request) (answer : List (String × List Package)) :
    (∀ order : List (String × List Package), order.Perm answer → ∀ feed,
      ((request.select order).listed feed).map key =
        ((request.select answer).listed feed).map key) ∧
    ((∀ order : List (String × List Package), order.Perm answer →
      request.select order = request.select answer) ↔ request.Unrivalled answer) ∧
    ((answer.map (·.1)).Nodup →
      (∀ entry ∈ answer, ∀ package ∈ entry.2, package.id = entry.1) →
      ∀ order : List (String × List Package), order.Perm answer →
        request.select order = request.select answer) := by
  refine ⟨fun order permuted feed => listed_keys permuted, ?_, ?_⟩
  · constructor
    · exact unrivalled_of_select_eq
    · intro unrivalled order permuted
      exact unrivalled.select_eq permuted
  · intro distinct ids order permuted
    exact (unrivalled_of_ids distinct ids).select_eq permuted

/-- Two packages in the entries of their ids, visited either way. -/
theorem select_visited_twice :
    let answer := [("BTC", [samplePackage "BTC" ["BTC"]]), ("ETH", [samplePackage "ETH" ["ETH"]])]
    (answer.map (·.1)).Nodup ∧
      (∀ entry ∈ answer, ∀ package ∈ entry.2, package.id = entry.1) ∧
      answer.reverse.Perm answer ∧
      sampleRequest.select answer.reverse = sampleRequest.select answer := by
  intro answer
  have distinct : (answer.map (·.1)).Nodup := by decide
  have ids : ∀ entry ∈ answer, ∀ package ∈ entry.2, package.id = entry.1 := by decide
  have reversed : answer.reverse.Perm answer := answer.reverse_perm
  exact ⟨distinct, ids, reversed,
    (select_visited sampleRequest answer).2.2 distinct ids _ reversed⟩

/-- Two packages of one id and one signer may be in different entries. Then the one is chosen whose
entry is visited first. -/
theorem select_depends_on_order :
    ¬∀ (request : Request) (answer order : List (String × List Package)),
      (answer.map (·.1)).Nodup → order.Perm answer →
        request.select order = request.select answer := by
  intro steady
  let older := samplePackage "MAIN" ["ETH"]
  let newer := { older with timestamp := 2000 }
  have same := steady sampleRequest [("A", [older]), ("B", [newer])]
    [("B", [newer]), ("A", [older])] (by decide) (.swap ..)
  have listed := congrArg (fun set => (PackageSet.listed set "ETH").map (·.timestamp)) same
  simp only [listed_select_eq] at listed
  rw [candidates_of_ordered (by decide +kernel) fun _ _ => rfl,
    candidates_of_ordered (by decide +kernel) fun _ _ => rfl] at listed
  exact absurd listed (by decide +kernel)

end Request

end PriceRelay
