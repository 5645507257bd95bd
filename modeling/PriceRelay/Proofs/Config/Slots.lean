import Mathlib.Data.List.DropRight
import Mathlib.Data.List.Nodup
import PriceRelay.Config.Validation
import PriceRelay.Proofs.Bytes.Utf8
import PriceRelay.Proofs.Successes
/-!
The slots of the feeds of an accepted configuration. Every id fits, but a slot does not tell an id
with NULs in full: reading stops at the first, and those at the end are lost among the zeros that
pad the slot.
-/

namespace PriceRelay

namespace Bytes

def pads (byte : UInt8) : Bool := byte = 0

theorem rdropWhile_zeros (bytes : Bytes) (size : Nat) :
    (bytes ++ zeros size).rdropWhile pads = bytes.rdropWhile pads := by
  induction size with
  | zero => rw [zeros, List.replicate_zero, List.append_nil]
  | succ size ih =>
    rw [zeros, List.replicate_succ', ← List.append_assoc, List.rdropWhile_concat_pos _ _ _ rfl]
    exact ih

theorem padRight_rdropWhile {bytes : Bytes} {size : Nat} (fits : bytes.length ≤ size) :
    padRight size (bytes.rdropWhile pads) = padRight size bytes := by
  have split : bytes.rdropWhile pads ++ bytes.rtakeWhile pads = bytes :=
    List.rdropWhile_append_rtakeWhile
  obtain ⟨count, tail⟩ : ∃ count, bytes.rtakeWhile pads = zeros count := by
    refine ⟨(bytes.rtakeWhile pads).length, List.eq_replicate_iff.mpr ⟨rfl, ?_⟩⟩
    intro byte member
    have padding : pads byte = true := List.mem_rtakeWhile_imp member
    exact of_decide_eq_true padding
  rw [tail] at split
  generalize bytes.rdropWhile pads = kept at split
  subst split
  rw [List.length_append, zeros, List.length_replicate] at fits
  simp only [padRight, zeros, List.length_append, List.length_replicate, List.append_assoc,
    List.replicate_append_replicate]
  congr 2
  omega

/-- Padded bytes are the same where the bytes are, apart from zeros at the end. -/
theorem padRight_eq_iff {first second : Bytes} {size : Nat} (fits : first.length ≤ size)
    (alsoFits : second.length ≤ size) :
    padRight size first = padRight size second ↔
      first.rdropWhile pads = second.rdropWhile pads := by
  constructor
  · intro same
    rw [← rdropWhile_zeros first (size - first.length),
      ← rdropWhile_zeros second (size - second.length)]
    exact congrArg (List.rdropWhile pads) same
  · intro same
    rw [← padRight_rdropWhile fits, same, padRight_rdropWhile alsoFits]

end Bytes

namespace FeedSlot

open Utf8 (nul)

/-- What is read of an id: the part in front of its first NUL. -/
def told (feed : FeedId) : FeedId := String.ofList (feed.toList.takeWhile (· ≠ nul))

/-- What a slot keeps of an id: all but the NULs at its end. -/
def kept (feed : FeedId) : FeedId := String.ofList (feed.toList.rdropWhile (· = nul))

theorem takeWhile_chars (chars : List Char) (size : Nat) :
    (chars.flatMap String.utf8EncodeChar ++ Bytes.zeros size).takeWhile (· ≠ 0) =
      (chars.takeWhile (· ≠ nul)).flatMap String.utf8EncodeChar := by
  induction chars with
  | nil => cases size <;> rfl
  | cons char chars ih =>
    by_cases stop : char = nul
    · subst stop
      rw [List.flatMap_cons, Utf8.utf8EncodeChar_nul]
      rfl
    · rw [List.flatMap_cons, List.append_assoc, List.takeWhile_append_of_pos, ih,
        List.takeWhile_cons_of_pos (by simp [stop]), List.flatMap_cons]
      intro byte member
      simp [Utf8.ne_zero_of_mem_utf8EncodeChar stop member]

theorem rdropWhile_chars (chars : List Char) :
    (chars.flatMap String.utf8EncodeChar).rdropWhile Bytes.pads =
      (chars.rdropWhile (· = nul)).flatMap String.utf8EncodeChar := by
  induction chars using List.reverseRecOn with
  | nil => rfl
  | append_singleton chars char ih =>
    rw [List.flatMap_append, List.flatMap_singleton]
    by_cases last : char = nul
    · subst last
      rw [Utf8.utf8EncodeChar_nul, List.rdropWhile_concat_pos _ _ _ rfl, ih,
        List.rdropWhile_concat_pos _ _ _ (by simp)]
    · rw [List.rdropWhile_concat_neg _ _ _ (by simpa using last), List.flatMap_append,
        List.flatMap_singleton, List.rdropWhile_eq_self_iff]
      intro nonempty
      -- The last byte belongs to the last character, which is no NUL.
      rw [List.getLast_append_of_ne_nil nonempty String.utf8EncodeChar_ne_nil]
      have written := Utf8.ne_zero_of_mem_utf8EncodeChar last
        (List.getLast_mem String.utf8EncodeChar_ne_nil)
      simpa [Bytes.pads] using written

theorem bytes_of_ofFeed? {feed : FeedId} {slot : Hash} (stored : ofFeed? feed = some slot) :
    slot.bytes = Bytes.padRight 32 (Utf8.encode feed) := by
  unfold ofFeed? at stored
  dsimp only at stored
  split at stored
  · cases stored
    rfl
  · cases stored

/-- A slot is read up to the first NUL of its id. -/
theorem toFeed_eq_told {feed : FeedId} {slot : Hash} (stored : ofFeed? feed = some slot) :
    toFeed slot = told feed := by
  rw [toFeed, bytes_of_ofFeed? stored, Bytes.padRight, Utf8.encode_eq, takeWhile_chars,
    Utf8.decodeLossy, Utf8.decodeFrom_chars, told]

theorem told_eq_self_iff {feed : FeedId} : told feed = feed ↔ nul ∉ feed.toList := by
  rw [told, ← String.toList_inj, String.toList_ofList, List.takeWhile_eq_self_iff]
  simp only [decide_eq_true_eq]
  constructor
  · intro others nulled
    exact others nul nulled rfl
  · rintro absent char member rfl
    exact absent member

theorem kept_eq_self {feed : FeedId} (absent : nul ∉ feed.toList) : kept feed = feed := by
  rw [kept, ← String.toList_inj, String.toList_ofList, List.rdropWhile_eq_self_iff]
  intro nonempty last
  exact absent (of_decide_eq_true last ▸ List.getLast_mem nonempty)

/-- Two ids share a slot where they differ in nothing but NULs at the end. -/
theorem ofFeed?_eq_iff {first second : FeedId} (fits : (Utf8.encode first).length ≤ maxLength)
    (alsoFits : (Utf8.encode second).length ≤ maxLength) :
    ofFeed? first = ofFeed? second ↔ kept first = kept second := by
  have slots : ofFeed? first = ofFeed? second ↔
      Bytes.padRight 32 (Utf8.encode first) = Bytes.padRight 32 (Utf8.encode second) := by
    rw [ofFeed?, dif_pos fits, ofFeed?, dif_pos alsoFits, Option.some_inj, FixedBytes.mk.injEq]
  have roomy {size : Nat} (fits : size ≤ maxLength) : size ≤ 32 := Nat.le_succ_of_le fits
  rw [slots, Bytes.padRight_eq_iff (roomy fits) (roomy alsoFits), Utf8.encode_eq, Utf8.encode_eq,
    rdropWhile_chars, rdropWhile_chars, kept, kept, String.ofList_inj]
  constructor
  · intro same
    rw [← Utf8.decodeFrom_chars (first.toList.rdropWhile _), same, Utf8.decodeFrom_chars]
  · intro same
    rw [same]

end FeedSlot

namespace Config

open FeedSlot Utf8

theorem require_ok_iff {rule : Bool} {error : ConfigError} :
    require rule error = .ok () ↔ rule = true := by
  cases rule <;> simp [require]

theorem checkFeeds_ok {seen : List FeedId} {feeds : List Feed}
    (accepted : checkFeeds seen feeds = .ok ()) :
    (feeds.map (·.id)).Nodup ∧
      ∀ feed ∈ feeds.map (·.id), feed ∉ seen ∧ (Utf8.encode feed).length ≤ maxLength := by
  induction feeds generalizing seen with
  | nil => simp
  | cons feed rest ih =>
    obtain ⟨_, checked, later⟩ := bind_ok_iff.mp accepted
    obtain ⟨_, new, others⟩ := bind_ok_iff.mp checked
    obtain ⟨_, fits, -⟩ := bind_ok_iff.mp others
    obtain ⟨distinct, each⟩ := ih later
    have unseen : feed.id ∉ seen := by simpa using require_ok_iff.mp new
    rw [List.map_cons, List.nodup_cons, List.forall_mem_cons]
    refine ⟨⟨?_, distinct⟩, ⟨unseen, of_decide_eq_true (require_ok_iff.mp fits)⟩, ?_⟩
    · intro again
      exact (each _ again).1 (List.mem_cons_self ..)
    · intro other member
      obtain ⟨unlike, fits⟩ := each other member
      exact ⟨fun seen => unlike (List.mem_cons_of_mem _ seen), fits⟩

theorem validate_checkFeeds {config : Config} (accepted : config.validate = .ok ()) :
    checkFeeds [] config.feeds = .ok () := by
  obtain ⟨_, -, accepted⟩ := bind_ok_iff.mp accepted
  obtain ⟨_, -, accepted⟩ := bind_ok_iff.mp accepted
  obtain ⟨_, -, accepted⟩ := bind_ok_iff.mp accepted
  obtain ⟨_, -, accepted⟩ := bind_ok_iff.mp accepted
  obtain ⟨_, checked, -⟩ := bind_ok_iff.mp accepted
  exact checked

/-- The feeds of an accepted configuration have ids of their own, and each has a slot. The slot is
read as the id exactly where the id has no NUL, and otherwise as the part in front of the first. Two
feeds share a slot exactly where their ids differ in nothing but NULs at the end, so never where no
id has a NUL. -/
theorem validate_slots {config : Config} (accepted : config.validate = .ok ()) :
    config.feedIds.Nodup ∧
    (∀ feed ∈ config.feedIds, ∃ slot, ofFeed? feed = some slot ∧ toFeed slot = told feed ∧
      (toFeed slot = feed ↔ nul ∉ feed.toList)) ∧
    (∀ feed ∈ config.feedIds, ∀ other ∈ config.feedIds,
      ofFeed? feed = ofFeed? other ↔ kept feed = kept other) ∧
    ((∀ feed ∈ config.feedIds, nul ∉ feed.toList) → (config.feedIds.map ofFeed?).Nodup) := by
  obtain ⟨distinct, each⟩ := checkFeeds_ok (validate_checkFeeds accepted)
  have shared (feed : FeedId) (member : feed ∈ config.feedIds) (other : FeedId)
      (also : other ∈ config.feedIds) : ofFeed? feed = ofFeed? other ↔ kept feed = kept other :=
    ofFeed?_eq_iff (each feed member).2 (each other also).2
  refine ⟨distinct, ?_, shared, ?_⟩
  · intro feed member
    have stored : ofFeed? feed = some _ := dif_pos (each feed member).2
    have reads := toFeed_eq_told stored
    exact ⟨_, stored, reads, reads ▸ told_eq_self_iff⟩
  · intro absent
    refine (List.nodup_map_iff_inj_on distinct).mpr ?_
    intro feed member other also same
    have alike := (shared feed member other also).mp same
    rwa [kept_eq_self (absent feed member), kept_eq_self (absent other also)] at alike

def listing (feeds : List FeedId) : Config where
  chain := { id := 1, rpcUrls := ["http://node"] }
  adapter := { kind := "multi-feed", contract := default }
  service := "prices"
  gatewayUrls := ["http://gateway"]
  feeds := feeds.map fun feed => { id := feed, heartbeat? := some 1000 }

/-- Ids without NULs, the empty one among them, each have a slot of their own that is read as the
id. -/
theorem validate_slots_separate :
    let config := listing ["ETH", "€/USD", ""]
    config.validate = .ok () ∧ (config.feedIds.map ofFeed?).Nodup ∧
      ∀ feed ∈ config.feedIds, (ofFeed? feed).map toFeed = some feed := by
  intro config
  have accepted : config.validate = .ok () := by decide +kernel
  have absent : ∀ feed ∈ config.feedIds, nul ∉ feed.toList := by decide
  obtain ⟨-, each, -, separate⟩ := validate_slots accepted
  refine ⟨accepted, separate absent, ?_⟩
  intro feed member
  obtain ⟨slot, stored, -, reads⟩ := each feed member
  rw [stored, Option.map_some, reads.mpr (absent feed member)]

/-- A NUL at the end of an id is accepted, and lost. -/
theorem validate_slots_shared :
    (listing ["ETH", "ETH\x00"]).validate = .ok () ∧
      (listing ["ETH", "ETH\x00"]).feedIds = ["ETH", "ETH\x00"] ∧
      ofFeed? "ETH" = ofFeed? "ETH\x00" ∧ (ofFeed? "ETH\x00").map toFeed = some "ETH" := by
  decide +kernel

end Config

end PriceRelay
