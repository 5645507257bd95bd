import PriceRelay.Adapter.Deployed
import PriceRelay.Proofs.Bytes.Written
import PriceRelay.Proofs.Packages.Needed
import PriceRelay.Proofs.Payload.RoundTrip
/-!
Update calls as a contract reads them: the selector of the function, its arguments, and a payload
behind. Which calls are built, and when there is none.
-/

namespace PriceRelay

namespace Abi

theorem length_selector (signature : String) : (selector signature).length = 4 := by
  rw [selector, List.length_take, (Keccak.digest _).length_eq]
  rfl

theorem length_word (value : Nat) : (word value).length = wordSize := Bytes.length_ofNat _ _

theorem split?_word (value : Nat) (rest : Bytes) :
    Bytes.split? wordSize (word value ++ rest) = some (word value, rest) :=
  Bytes.split?_append (length_word value) rest

theorem toNat_word {value : Nat} (fits : value < wordBound) : (word value).toNat = value :=
  Bytes.toNat_ofNat_of_lt fits

end Abi

namespace AdapterContract

def arguments? (signature : String) (data : Bytes) : Option Bytes :=
  if data.take 4 = Abi.selector signature then some (data.drop 4) else none

theorem arguments?_append (signature : String) (rest : Bytes) :
    arguments? signature (Abi.selector signature ++ rest) = some rest := by
  rw [arguments?, List.take_left' (Abi.length_selector _), if_pos rfl,
    List.drop_left' (Abi.length_selector _)]

/-- The timestamp that a call for all feeds proposes, and the payload behind. -/
def updateAll? (data : Bytes) : Option (Millis × Bytes) := do
  let (proposed, payload) ← Bytes.split? Abi.wordSize
    (← arguments? "updateDataFeedsValues(uint256)" data)
  return (proposed.toNat, payload)

/-- A contract reads the timestamp that was proposed. -/
theorem updateAll?_append {proposed : Millis} (fits : proposed < Abi.wordBound) (payload : Bytes) :
    updateAll? (updateAllCall proposed ++ payload) = some (proposed, payload) := by
  unfold updateAll? updateAllCall
  simp only [List.append_assoc, arguments?_append, Abi.split?_word, Option.bind_eq_bind,
    Option.bind_some, Abi.toNat_word fits, Option.pure_def]

end AdapterContract

namespace Adapter.Site

variable {site : Site} {feeds : List FeedId} {set : PackageSet} {timestamp : Millis}
  {call : UpdateCall}

theorem slots_ok_iff {slots : List Hash} :
    Site.slots feeds = .ok slots ↔
      List.Forall₂ (fun slot feed => FeedSlot.ofFeed? feed = some slot) slots feeds := by
  rw [Site.slots, mapError_ok_iff, mapM_ok_iff]
  simp only [Payload.feedSlot_ok_iff]

theorem exists_slots_iff :
    (∃ slots, Site.slots feeds = .ok slots) ↔
      ∀ feed ∈ feeds, (Utf8.encode feed).length ≤ 31 := by
  simp only [Site.slots, mapError_ok_iff, exists_mapM_ok_iff, Payload.feedSlot_ok_iff,
    Payload.ofFeed?_isSome_iff]

theorem build_apart (apart : site.kind = .multiFeed) :
    site.build feeds set timestamp = site.buildSome feeds set timestamp := by
  rw [build, apart]

theorem build_together (together : site.kind = .priceFeeds) :
    site.build feeds set timestamp = site.buildAll feeds set timestamp := by
  rw [build, together]

/-- Which calls for some feeds are built. -/
theorem buildSome_ok_iff :
    site.buildSome feeds set timestamp = .ok call ↔
      set.packagesFor (feeds.filter (set.has ·)) ≠ [] ∧
      ∃ slots payload, Site.slots (feeds.filter (set.has ·)) = .ok slots ∧
        Payload.encode (set.packagesFor (feeds.filter (set.has ·))) timestamp = .ok payload ∧
        call =
          { sender := site.sender, target := site.contract
            data := AdapterContract.updateSomeCall slots ++ payload
            feeds := feeds.filter (set.has ·) } := by
  unfold buildSome
  dsimp only
  split
  case isTrue empty =>
    refine iff_of_false ?_ fun ⟨nonempty, _⟩ => nonempty (List.isEmpty_iff.mp empty)
    intro built
    obtain ⟨_, thrown, _⟩ := bind_ok_iff.mp built
    cases thrown
  case isFalse nonempty =>
    constructor
    · intro built
      obtain ⟨slots, slotted, rest⟩ := bind_ok_iff.mp built
      obtain ⟨payload, encoded, same⟩ := bind_ok_iff.mp rest
      cases same
      exact ⟨mt List.isEmpty_iff.mpr nonempty, slots, payload, slotted, mapError_ok_iff.mp encoded,
        rfl⟩
    · rintro ⟨_, slots, payload, slotted, encoded, rfl⟩
      exact bind_ok_iff.mpr ⟨slots, slotted, bind_ok_iff.mpr
        ⟨payload, mapError_ok_iff.mpr encoded, rfl⟩⟩

/-- Which calls for all feeds are built. -/
theorem buildAll_ok_iff :
    site.buildAll feeds set timestamp = .ok call ↔
      (∀ feed ∈ feeds, set.has feed = true) ∧
      ∃ proposed payload, ((set.packagesFor feeds).map (·.timestamp)).min? = some proposed ∧
        Payload.encode (set.packagesFor feeds) timestamp = .ok payload ∧
        call =
          { sender := site.sender, target := site.contract
            data := AdapterContract.updateAllCall proposed ++ payload
            feeds } := by
  have missing_iff : (feeds.filter fun feed => !set.has feed) = [] ↔
      ∀ feed ∈ feeds, set.has feed = true := by simp [List.filter_eq_nil_iff]
  unfold buildAll
  dsimp only
  split
  case isTrue missing =>
    refine iff_of_false ?_ fun ⟨covered, _⟩ => ?_
    · intro built
      obtain ⟨_, thrown, _⟩ := bind_ok_iff.mp built
      cases thrown
    · rw [missing_iff.mpr covered] at missing
      cases missing
  case isFalse complete =>
    have covered : ∀ feed ∈ feeds, set.has feed = true := by
      apply missing_iff.mp
      simpa using complete
    split
    case h_1 none_needed =>
      refine iff_of_false (fun thrown => by cases thrown) ?_
      rintro ⟨_, proposed, _, oldest, _⟩
      cases none_needed.symm.trans oldest
    case h_2 proposed oldest =>
      constructor
      · intro built
        obtain ⟨payload, encoded, same⟩ := bind_ok_iff.mp built
        cases same
        exact ⟨covered, proposed, payload, oldest, mapError_ok_iff.mp encoded, rfl⟩
      · rintro ⟨_, other, payload, least, encoded, rfl⟩
        cases oldest.symm.trans least
        exact bind_ok_iff.mpr ⟨payload, mapError_ok_iff.mpr encoded, rfl⟩

/-- What a call for all feeds is made of. -/
structure WritesAll (site : Site) (feeds : List FeedId) (set : PackageSet) (timestamp : Millis)
    (call : UpdateCall) : Prop where
  sender : call.sender = site.sender
  target : call.target = site.contract
  records : call.feeds = feeds
  /-- The contract reads the oldest timestamp, and behind it the payload that the feeds need. -/
  data : ∃ proposed payload,
    ((set.packagesFor feeds).map (·.timestamp)).min? = some proposed ∧
    Payload.encode (set.packagesFor feeds) timestamp = .ok payload ∧
    call.data = AdapterContract.updateAllCall proposed ++ payload ∧
    AdapterContract.updateAll? call.data = some (proposed, payload)

theorem proposed_lt {packages : List Package} {proposed : Millis} {payload : Bytes}
    (oldest : (packages.map (·.timestamp)).min? = some proposed)
    (encoded : Payload.encode packages timestamp = .ok payload) : proposed < Abi.wordBound := by
  obtain ⟨package, member, rfl⟩ := List.mem_map.mp (List.min?_mem oldest)
  exact Nat.lt_trans (Payload.encode_fits encoded package member).timestamp (by decide)

theorem buildAll_writes (built : site.buildAll feeds set timestamp = .ok call) :
    site.WritesAll feeds set timestamp call := by
  obtain ⟨_, proposed, payload, oldest, encoded, rfl⟩ := buildAll_ok_iff.mp built
  exact ⟨rfl, rfl, rfl, proposed, payload, oldest, encoded, rfl,
    AdapterContract.updateAll?_append (proposed_lt oldest encoded) payload⟩

/-- A contract reads the oldest timestamp of the packages that are sent. -/
theorem buildAll_proposes (built : site.buildAll feeds set timestamp = .ok call) :
    ∃ proposed payload, AdapterContract.updateAll? call.data = some (proposed, payload) ∧
      ((set.packagesFor feeds).map (·.timestamp)).min? = some proposed := by
  obtain ⟨proposed, payload, oldest, _, _, read⟩ := (buildAll_writes built).data
  exact ⟨proposed, payload, read, oldest⟩

theorem buildAll_succeeds {payload : Bytes} (nonempty : set.packagesFor feeds ≠ [])
    (covered : ∀ feed ∈ feeds, set.has feed = true)
    (written : Payload.encode (set.packagesFor feeds) timestamp = .ok payload) :
    ∃ call, site.buildAll feeds set timestamp = .ok call := by
  obtain ⟨proposed, oldest⟩ : ∃ proposed,
      ((set.packagesFor feeds).map (·.timestamp)).min? = some proposed := by
    rw [← Option.isSome_iff_exists, List.isSome_min?_iff]
    simpa using nonempty
  exact ⟨_, buildAll_ok_iff.mpr ⟨covered, proposed, payload, oldest, written, rfl⟩⟩

end Adapter.Site

end PriceRelay
