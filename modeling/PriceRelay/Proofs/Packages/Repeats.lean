import Mathlib.Data.List.Perm.Subperm
import PriceRelay.Package
/-!
Packages without repeats. Of those with the same mark the first is kept, and no other.
-/

namespace PriceRelay.Package

variable {κ : Type} [BEq κ] [LawfulBEq κ]

def firstBy (mark : Package → κ) (seen : List κ) : List Package → List Package
  | [] => []
  | package :: rest =>
    if seen.contains (mark package) then firstBy mark seen rest
    else package :: firstBy mark (mark package :: seen) rest

variable (mark : Package → κ) (seen : List κ) (packages : List Package)

omit [LawfulBEq κ] in
theorem firstBy_sublist : (firstBy mark seen packages).Sublist packages := by
  induction packages generalizing seen with
  | nil => exact .slnil
  | cons package rest ih =>
    rw [firstBy]
    split
    · exact .cons package (ih seen)
    · exact .cons_cons package (ih _)

/-- No mark comes twice, nor one that was seen before. -/
theorem firstBy_marks :
    ((firstBy mark seen packages).map mark).Nodup ∧
      ∀ package ∈ firstBy mark seen packages, mark package ∉ seen := by
  induction packages generalizing seen with
  | nil => simp [firstBy]
  | cons package rest ih =>
    rw [firstBy]
    split
    · exact ih seen
    · rename_i fresh
      obtain ⟨distinct, unseen⟩ := ih (mark package :: seen)
      refine ⟨List.nodup_cons.mpr ⟨?_, distinct⟩, List.forall_mem_cons.mpr ⟨?_, ?_⟩⟩
      · intro again
        obtain ⟨other, member, same⟩ := List.mem_map.mp again
        have new := unseen other member
        rw [same] at new
        exact new List.mem_cons_self
      · simpa using fresh
      · intro other member seenBefore
        exact unseen other member (List.mem_cons_of_mem (mark package) seenBefore)

variable {mark seen packages}

theorem exists_firstBy {package : Package} (member : package ∈ packages)
    (fresh : mark package ∉ seen) : ∃ kept ∈ firstBy mark seen packages, mark kept = mark package := by
  induction packages generalizing seen with
  | nil => cases member
  | cons first rest ih =>
    rw [firstBy]
    split
    · rename_i repeated
      rcases List.mem_cons.mp member with rfl | later
      · exact absurd (List.contains_iff_mem.mp repeated) fresh
      · exact ih later fresh
    · by_cases same : mark package = mark first
      · exact ⟨first, List.mem_cons_self, same.symm⟩
      · have later : package ∈ rest := by
          refine (List.mem_cons.mp member).resolve_left ?_
          rintro rfl
          exact same rfl
        have unseen : mark package ∉ mark first :: seen := by simp [same, fresh]
        obtain ⟨kept, among, sameMark⟩ := ih later unseen
        exact ⟨kept, List.mem_cons_of_mem first among, sameMark⟩

theorem find?_of_mem_firstBy {package : Package} (member : package ∈ firstBy mark seen packages) :
    packages.find? (fun other => mark other == mark package) = some package := by
  induction packages generalizing seen with
  | nil => cases member
  | cons first rest ih =>
    have unseen := (firstBy_marks mark seen (first :: rest)).2 package member
    rw [firstBy] at member
    split at member
    · rename_i repeated
      have different : mark first ≠ mark package := by
        intro same
        exact unseen (same ▸ List.contains_iff_mem.mp repeated)
      rw [List.find?_cons_of_neg (by simpa using different)]
      exact ih member
    · rcases List.mem_cons.mp member with rfl | later
      · exact List.find?_cons_of_pos (beq_self_eq_true _)
      · have new := (firstBy_marks mark (mark first :: seen) rest).2 package later
        have different : mark first ≠ mark package := by
          intro same
          exact new (same ▸ List.mem_cons_self)
        rw [List.find?_cons_of_neg (by simpa using different)]
        exact ih later

/-- Of packages in order each one that is left comes first among those whose marks are not left
before it. -/
theorem firstBy_first {order : Package → Package → Prop} (ordered : packages.Pairwise order)
    {earlier later : List Package} {package rival : Package}
    (split : firstBy mark seen packages = earlier ++ package :: later)
    (among : rival ∈ packages) (fresh : mark rival ∉ seen) (new : mark rival ∉ earlier.map mark) :
    rival = package ∨ order package rival := by
  induction packages generalizing seen earlier with
  | nil => cases among
  | cons first rest ih =>
    obtain ⟨above, tail⟩ := List.pairwise_cons.mp ordered
    rw [firstBy] at split
    split at split
    · rename_i repeated
      rcases List.mem_cons.mp among with rfl | later
      · exact absurd (List.contains_iff_mem.mp repeated) fresh
      · exact ih tail split later fresh new
    · cases earlier with
      | nil =>
        obtain ⟨rfl, _⟩ := List.cons.inj split
        exact (List.mem_cons.mp among).imp_right (above rival)
      | cons head earlier =>
        obtain ⟨rfl, rest⟩ := List.cons.inj split
        have different : mark rival ≠ mark first ∧ mark rival ∉ earlier.map mark := by
          simpa using new
        have later : rival ∈ _ := (List.mem_cons.mp among).resolve_left fun same =>
          different.1 (congrArg mark same)
        apply ih tail rest later _ different.2
        simp [different.1, fresh]

theorem le_length_firstBy {marks : List κ} (distinct : marks.Nodup)
    (found : ∀ own ∈ marks, ∃ package ∈ packages, mark package = own) :
    marks.length ≤ (firstBy mark [] packages).length := by
  have left : marks ⊆ (firstBy mark [] packages).map mark := by
    intro own member
    obtain ⟨package, among, rfl⟩ := found own member
    obtain ⟨kept, present, same⟩ := exists_firstBy among (List.not_mem_nil (a := mark package))
    exact List.mem_map.mpr ⟨kept, present, same⟩
  calc marks.length
    _ ≤ ((firstBy mark [] packages).map mark).length := (distinct.subperm left).length_le
    _ = (firstBy mark [] packages).length := List.length_map mark

end PriceRelay.Package
