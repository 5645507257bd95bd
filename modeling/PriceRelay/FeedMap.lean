/-!
Maps from feed ids, kept in the order of the ids' bytes. Lists in strictly increasing order are the
one form of a map, so equal maps are equal values.
-/

namespace PriceRelay

/-- The name of a price feed, such as `ETH`. -/
abbrev FeedId := String

/-- Entries in strictly increasing order of their feeds. -/
structure FeedMap (α : Type) where
  entries : List (FeedId × α)
  sorted : entries.Pairwise fun a b => a.1 < b.1

namespace FeedMap

variable {α : Type}

def empty : FeedMap α := ⟨[], .nil⟩

instance : Inhabited (FeedMap α) := ⟨empty⟩

/-- Put an entry in its place, over an older one of the same feed. -/
def insertEntry (feed : FeedId) (value : α) : List (FeedId × α) → List (FeedId × α)
  | [] => [(feed, value)]
  | (other, old) :: rest =>
    if feed < other then (feed, value) :: (other, old) :: rest
    else if feed = other then (feed, value) :: rest
    else (other, old) :: insertEntry feed value rest

theorem mem_insertEntry {feed : FeedId} {value : α} {entries : List (FeedId × α)}
    {entry : FeedId × α} (h : entry ∈ insertEntry feed value entries) :
    entry = (feed, value) ∨ entry ∈ entries := by
  induction entries with
  | nil => simpa [insertEntry] using h
  | cons head rest ih =>
    obtain ⟨other, old⟩ := head
    rw [insertEntry] at h
    split at h
    · simpa using h
    · split at h
      · rcases List.mem_cons.mp h with rfl | h
        · exact .inl rfl
        · exact .inr (List.mem_cons_of_mem _ h)
      · rcases List.mem_cons.mp h with rfl | h
        · exact .inr List.mem_cons_self
        · exact (ih h).imp id (List.mem_cons_of_mem _)

theorem insertEntry_sorted {feed : FeedId} {value : α} {entries : List (FeedId × α)}
    (sorted : entries.Pairwise fun a b => a.1 < b.1) :
    (insertEntry feed value entries).Pairwise fun a b => a.1 < b.1 := by
  induction entries with
  | nil => simp [insertEntry]
  | cons head rest ih =>
    obtain ⟨other, old⟩ := head
    obtain ⟨above, tail⟩ := List.pairwise_cons.mp sorted
    rw [insertEntry]
    split
    · rename_i before
      refine List.pairwise_cons.mpr ⟨fun entry member => ?_, sorted⟩
      rcases List.mem_cons.mp member with rfl | member
      · exact before
      · exact String.lt_trans before (above entry member)
    · split
      · rename_i same
        subst same
        exact List.pairwise_cons.mpr ⟨above, tail⟩
      · rename_i notBefore different
        refine List.pairwise_cons.mpr ⟨fun entry member => ?_, ih tail⟩
        rcases mem_insertEntry member with rfl | member
        · have : other ≤ feed := String.not_lt.mp notBefore
          exact Decidable.byContradiction fun notAfter =>
            different (String.le_antisymm (String.not_lt.mp notAfter) this)
        · exact above entry member

def insert (map : FeedMap α) (feed : FeedId) (value : α) : FeedMap α :=
  ⟨insertEntry feed value map.entries, insertEntry_sorted map.sorted⟩

/-- Later entries win. -/
def ofList (entries : List (FeedId × α)) : FeedMap α :=
  entries.foldl (fun map entry => map.insert entry.1 entry.2) empty

def find? (map : FeedMap α) (feed : FeedId) : Option α := map.entries.lookup feed

/-- The feeds in the order of their bytes. -/
def feeds (map : FeedMap α) : List FeedId := map.entries.map (·.1)

def values (map : FeedMap α) : List α := map.entries.map (·.2)

def size (map : FeedMap α) : Nat := map.entries.length

theorem mem_values_of_find? {map : FeedMap α} {feed : FeedId} {value : α}
    (found : map.find? feed = some value) : value ∈ map.values := by
  obtain ⟨before, after, same, _⟩ := List.lookup_eq_some_iff.mp found
  rw [values, same]
  simp

/-- Change the value of a feed, starting from `default` where there is none. -/
def adjust (map : FeedMap α) (feed : FeedId) (default : α) (change : α → α) : FeedMap α :=
  map.insert feed (change ((map.find? feed).getD default))

end FeedMap

/-- The texts without repetition, in the order of their bytes. -/
def distinctFeeds (feeds : List FeedId) : List FeedId :=
  (FeedMap.ofList (feeds.map fun feed => (feed, ()))).feeds

end PriceRelay
