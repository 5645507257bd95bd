import Mathlib.Data.List.Nodup
import PriceRelay.PackageSet
/-!
Looking feeds up. A value is found under the feed it was put in for, and packages are listed under
the requested feeds they carry, in the order in which they came.
-/

namespace PriceRelay

namespace FeedMap

variable {α : Type}

theorem lookup_insertEntry_self (feed : FeedId) (value : α) (entries : List (FeedId × α)) :
    (insertEntry feed value entries).lookup feed = some value := by
  induction entries with
  | nil => simp [insertEntry]
  | cons head rest ih =>
    rw [insertEntry]
    split
    · simp
    · split
      · simp
      · rename_i different
        have test : (feed == head.1) = false := beq_eq_false_iff_ne.mpr different
        simpa only [List.lookup_cons, test] using ih

theorem lookup_insertEntry_ne {feed other : FeedId} (different : other ≠ feed) (value : α)
    (entries : List (FeedId × α)) :
    (insertEntry feed value entries).lookup other = entries.lookup other := by
  have test : (other == feed) = false := beq_eq_false_iff_ne.mpr different
  induction entries with
  | nil => simp only [insertEntry, List.lookup_cons, test, List.lookup_nil]
  | cons head rest ih =>
    obtain ⟨key, old⟩ := head
    rw [insertEntry]
    split
    · simp only [List.lookup_cons, test]
    · split
      · rename_i same
        subst same
        simp only [List.lookup_cons, test]
      · simp only [List.lookup_cons, ih]

@[simp] theorem find?_empty (feed : FeedId) : (empty : FeedMap α).find? feed = none := rfl

@[simp] theorem find?_insert (map : FeedMap α) (feed other : FeedId) (value : α) :
    (map.insert feed value).find? other = if other = feed then some value else map.find? other := by
  split
  case isTrue same =>
    subst same
    exact lookup_insertEntry_self other value map.entries
  case isFalse different => exact lookup_insertEntry_ne different value map.entries

theorem mem_feeds_iff (map : FeedMap α) (feed : FeedId) :
    feed ∈ map.feeds ↔ (map.find? feed).isSome = true := by
  rw [Option.isSome_iff_ne_none, find?, Ne, List.lookup_eq_none_iff]
  simp [feeds]

theorem nodup_feeds (map : FeedMap α) : map.feeds.Nodup :=
  List.Pairwise.map (fun entry : FeedId × α => entry.1) (fun _ _ => String.ne_of_lt) map.sorted

theorem eq_of_entries {first second : FeedMap α} (same : first.entries = second.entries) :
    first = second := by
  cases first
  cases second
  cases same
  rfl

theorem mem_entries_iff (map : FeedMap α) (feed : FeedId) (value : α) :
    (feed, value) ∈ map.entries ↔ map.find? feed = some value := by
  constructor
  · intro member
    have some_found : (map.find? feed).isSome = true :=
      (mem_feeds_iff map feed).mp (List.mem_map_of_mem (f := Prod.fst) member)
    obtain ⟨other, found⟩ := Option.isSome_iff_exists.mp some_found
    obtain ⟨before, after, split, _⟩ := List.lookup_eq_some_iff.mp found
    have stored : (feed, other) ∈ map.entries := by simp [split]
    have same := List.inj_on_of_nodup_map (nodup_feeds map) stored member rfl
    rw [found, (Prod.mk.inj same).2]
  · intro found
    obtain ⟨before, after, split, _⟩ := List.lookup_eq_some_iff.mp found
    simp [split]

theorem ext_find? {first second : FeedMap α} (same : ∀ feed, first.find? feed = second.find? feed) :
    first = second := by
  have distinct : ∀ map : FeedMap α, map.entries.Nodup := fun map => (nodup_feeds map).of_map _
  have members : first.entries.Perm second.entries := by
    apply (List.perm_ext_iff_of_nodup (distinct first) (distinct second)).mpr
    rintro ⟨feed, value⟩
    rw [mem_entries_iff, mem_entries_iff, same]
  apply eq_of_entries
  apply List.Perm.eq_of_pairwise _ first.sorted second.sorted members
  intro entry other _ _ earlier later
  exact absurd (String.lt_trans earlier later) (String.lt_irrefl _)

/-- What a walk over feeds puts in for some of them is found there. -/
theorem find?_foldl (choice : FeedId → Option α) {step : FeedMap α → FeedId → FeedMap α}
    (once : ∀ map feed other, (step map feed).find? other =
      if other = feed then (choice feed).or (map.find? other) else map.find? other)
    (feeds : List FeedId) (map : FeedMap α) (feed : FeedId) :
    (feeds.foldl step map).find? feed =
      if feed ∈ feeds then (choice feed).or (map.find? feed) else map.find? feed := by
  induction feeds generalizing map with
  | nil => simp
  | cons first rest ih =>
    rw [List.foldl_cons, ih, once]
    by_cases same : feed = first
    · subst same
      cases choice feed <;> simp
    · simp [same]

theorem find?_ofList (entries : List (FeedId × α)) (feed : FeedId) :
    (ofList entries).find? feed = entries.reverse.lookup feed := by
  have from_map : ∀ map : FeedMap α,
      (entries.foldl (fun map entry => map.insert entry.1 entry.2) map).find? feed =
        (entries.reverse.lookup feed).or (map.find? feed) := by
    induction entries with
    | nil => simp
    | cons entry rest ih =>
      obtain ⟨key, stored⟩ := entry
      intro map
      rw [List.foldl_cons, ih, List.reverse_cons, List.lookup_append, Option.or_assoc, find?_insert]
      by_cases same : feed = key
      · simp [same]
      · have test : (feed == key) = false := beq_eq_false_iff_ne.mpr same
        simp [List.lookup_cons, same, test]
  rw [ofList, from_map, find?_empty, Option.or_none]

theorem mem_of_find?_ofList {entries : List (FeedId × α)} {feed : FeedId} {value : α}
    (found : (ofList entries).find? feed = some value) : (feed, value) ∈ entries := by
  rw [find?_ofList] at found
  obtain ⟨before, after, same, _⟩ := List.lookup_eq_some_iff.mp found
  apply List.mem_reverse.mp
  rw [same]
  exact List.mem_append_right _ List.mem_cons_self

theorem exists_find?_ofList {entries : List (FeedId × α)} {feed : FeedId} {value : α}
    (member : (feed, value) ∈ entries) : ∃ last, (ofList entries).find? feed = some last := by
  rw [find?_ofList]
  apply Option.isSome_iff_exists.mp
  exact List.lookup_isSome_iff.mpr ⟨_, List.mem_reverse.mpr member, beq_self_eq_true feed⟩

/-- Entries of different feeds are all found in their map, and nothing else is. -/
theorem find?_ofList_iff {entries : List (FeedId × α)} (distinct : (entries.map (·.1)).Nodup)
    {feed : FeedId} {value : α} :
    (ofList entries).find? feed = some value ↔ (feed, value) ∈ entries := by
  constructor
  · exact mem_of_find?_ofList
  · intro member
    obtain ⟨last, found⟩ := exists_find?_ofList member
    have same := List.inj_on_of_nodup_map distinct (mem_of_find?_ofList found) member rfl
    rw [found, (Prod.mk.inj same).2]

end FeedMap

theorem nodup_distinctFeeds (feeds : List FeedId) : (distinctFeeds feeds).Nodup :=
  FeedMap.nodup_feeds _

theorem mem_distinctFeeds_iff {feed : FeedId} {feeds : List FeedId} :
    feed ∈ distinctFeeds feeds ↔ feed ∈ feeds := by
  have from_map : ∀ map : FeedMap Unit,
      feed ∈ (feeds.foldl (fun map feed => map.insert feed ()) map).feeds ↔
        feed ∈ feeds ∨ feed ∈ map.feeds := by
    induction feeds with
    | nil => simp
    | cons first rest ih =>
      intro map
      rw [List.foldl_cons, ih, FeedMap.mem_feeds_iff, FeedMap.mem_feeds_iff, FeedMap.find?_insert]
      by_cases same : feed = first <;> simp [same]
  rw [distinctFeeds, FeedMap.ofList, List.foldl_map, from_map]
  simp [FeedMap.feeds, FeedMap.empty]

namespace Package

theorem mem_feeds_iff {package : Package} {feed : FeedId} :
    feed ∈ package.feeds ↔ package.carries feed = true := by
  rw [feeds, mem_distinctFeeds_iff, carries, List.any_eq_true, List.mem_map]
  simp

end Package

namespace PackageSet

theorem listed_eq (set : PackageSet) (feed : FeedId) :
    set.listed feed = (set.find? feed).getD [] := by
  rw [listed, get?]
  cases set.find? feed with
  | none => rfl
  | some packages => cases packages <;> rfl

theorem listed_adjust (set : PackageSet) (feed other : FeedId) (package : Package) :
    PackageSet.listed (set.adjust feed [] (· ++ [package])) other =
      set.listed other ++ if other = feed then [package] else [] := by
  rw [listed_eq, listed_eq, FeedMap.adjust, FeedMap.find?_insert]
  split
  case isTrue same => simp [same]
  case isFalse different => simp

theorem listed_add (set : PackageSet) (package : Package) {feeds : List FeedId}
    (distinct : feeds.Nodup) (feed : FeedId) :
    PackageSet.listed
        (feeds.foldl (fun set feed => set.adjust feed [] (· ++ [package])) set) feed =
      set.listed feed ++ if feed ∈ feeds then [package] else [] := by
  induction feeds generalizing set with
  | nil => simp
  | cons first rest ih =>
    obtain ⟨absent, distinct⟩ := List.nodup_cons.mp distinct
    rw [List.foldl_cons, ih _ distinct, listed_adjust]
    by_cases same : feed = first
    · subst same
      simp [absent]
    · simp [same]

theorem listed_ofPackages (packages : List Package) (requested : List FeedId) (feed : FeedId) :
    (ofPackages packages requested).listed feed =
      if feed ∈ requested then packages.filter (·.carries feed) else [] := by
  have from_set : ∀ set : PackageSet, PackageSet.listed (packages.foldl (fun set package =>
      (package.feeds.filter (requested.contains ·)).foldl
        (fun set feed => set.adjust feed [] (· ++ [package])) set) set) feed =
      set.listed feed ++ packages.filter fun package =>
        package.carries feed && requested.contains feed := by
    induction packages with
    | nil => simp
    | cons package rest ih =>
      intro set
      have distinct : (package.feeds.filter (requested.contains ·)).Nodup :=
        (nodup_distinctFeeds _).filter _
      rw [List.foldl_cons, ih, listed_add set package distinct feed, List.append_assoc]
      congr 1
      simp only [List.mem_filter, Package.mem_feeds_iff, List.filter_cons, Bool.and_eq_true]
      split <;> simp
  rw [ofPackages, from_set]
  by_cases wanted : feed ∈ requested <;> simp [wanted, listed_eq]

end PackageSet

end PriceRelay
