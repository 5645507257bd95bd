import PriceRelay.Proofs.Adapter.UpdateCalls
/-!
Answers of adapter contracts. An answer is read exactly where it is the written form of something,
and as that; whatever a contract reports of a feed is stored without wrapping.
-/

namespace PriceRelay

theorem Bytes.split?_eq_some_iff {size : Nat} {bytes first rest : Bytes} :
    split? size bytes = some (first, rest) ↔ bytes = first ++ rest ∧ first.length = size := by
  constructor
  · intro parted
    unfold split? at parted
    split at parted
    case isTrue enough =>
      cases parted
      exact ⟨(List.take_append_drop size bytes).symm, List.length_take_of_le enough⟩
    case isFalse => cases parted
  · rintro ⟨rfl, sized⟩
    exact split?_append sized rest

namespace Abi

def AllFit (values : List Nat) : Prop := ∀ value ∈ values, value < wordBound

instance (values : List Nat) : Decidable (AllFit values) :=
  inferInstanceAs (Decidable (∀ value ∈ values, value < wordBound))

def words (values : List Nat) : Bytes := (values.map word).flatten

theorem words_cons (value : Nat) (values : List Nat) :
    words (value :: values) = word value ++ words values := rfl

theorem words_append (values more : List Nat) :
    words (values ++ more) = words values ++ words more := by
  rw [words, List.map_append, List.flatten_append, words, words]

theorem length_words (values : List Nat) : (words values).length = wordSize * values.length := by
  induction values with
  | nil => rfl
  | cons value values ih =>
    rw [words_cons, List.length_append, length_word, ih, List.length_cons, Nat.mul_succ,
      Nat.add_comm]

theorem allFit_cons {value : Nat} {values : List Nat} :
    AllFit (value :: values) ↔ value < wordBound ∧ AllFit values := List.forall_mem_cons

theorem split?_word_iff {content first rest : Bytes} :
    Bytes.split? wordSize content = some (first, rest) ↔
      ∃ value < wordBound, first = word value ∧ content = word value ++ rest := by
  rw [Bytes.split?_eq_some_iff]
  constructor
  · rintro ⟨rfl, sized⟩
    have below : first.toNat < wordBound := by
      have fits := Bytes.toNat_lt first
      rwa [sized] at fits
    have written : word first.toNat = first := Bytes.ofNat_toNat sized
    exact ⟨first.toNat, below, written.symm, by rw [written]⟩
  · rintro ⟨value, -, written, whole⟩
    exact ⟨written ▸ whole, written ▸ length_word value⟩

theorem wordsFrom_nil {fuel : Nat} : wordsFrom fuel [] = some [] := by
  cases fuel <;> rfl

theorem wordsFrom_succ {fuel : Nat} {content : Bytes} (nonempty : content ≠ []) :
    wordsFrom (fuel + 1) content =
      (Bytes.split? wordSize content).bind fun split =>
        (wordsFrom fuel split.2).map (split.1.toNat :: ·) := by
  cases content with
  | nil => exact absurd rfl nonempty
  | cons byte rest =>
    rw [wordsFrom]
    · simp only [Option.bind_eq_bind, Option.pure_def, Option.map_eq_bind, Function.comp_def]
    · exact fun empty => absurd empty nonempty

theorem wordsFrom_words {fuel : Nat} {values : List Nat} (fit : AllFit values)
    (enough : values.length ≤ fuel) : wordsFrom fuel (words values) = some values := by
  induction values generalizing fuel with
  | nil => exact wordsFrom_nil
  | cons value values ih =>
    obtain ⟨fits, others⟩ := allFit_cons.mp fit
    have nonempty : words (value :: values) ≠ [] := by
      apply List.ne_nil_of_length_pos
      rw [length_words]
      exact Nat.mul_pos (by decide) (Nat.succ_pos _)
    cases fuel with
    | zero => cases enough
    | succ fuel =>
      rw [wordsFrom_succ nonempty, words_cons, split?_word, Option.bind_some,
        ih others (Nat.le_of_succ_le_succ enough), Option.map_some, toNat_word fits]

theorem eq_words_of_wordsFrom {fuel : Nat} {content : Bytes} {values : List Nat}
    (read : wordsFrom fuel content = some values) : content = words values ∧ AllFit values := by
  induction fuel generalizing content values with
  | zero =>
    cases content with
    | nil =>
      cases read
      exact ⟨rfl, List.forall_mem_nil _⟩
    | cons byte rest => cases read
  | succ fuel ih =>
    by_cases empty : content = []
    · rw [empty, wordsFrom_nil] at read
      cases read
      exact ⟨empty, List.forall_mem_nil _⟩
    · rw [wordsFrom_succ empty] at read
      obtain ⟨⟨first, rest⟩, parted, read⟩ := Option.bind_eq_some_iff.mp read
      obtain ⟨others, later, same⟩ := Option.map_eq_some_iff.mp read
      obtain ⟨value, fits, written, whole⟩ := split?_word_iff.mp parted
      obtain ⟨writtenRest, fit⟩ := ih later
      have told : first.toNat = value := by rw [written, toNat_word fits]
      rw [← same, told]
      exact ⟨by rw [whole, words_cons, ← writtenRest], allFit_cons.mpr ⟨fits, fit⟩⟩

theorem words?_eq_some_iff {content : Bytes} {values : List Nat} :
    words? content = some values ↔ content = words values ∧ AllFit values := by
  rw [words?]
  constructor
  · exact eq_words_of_wordsFrom
  · rintro ⟨rfl, fit⟩
    refine wordsFrom_words fit ?_
    rw [length_words]
    exact Nat.le_mul_of_pos_left _ (by decide)

/-- A list is read where its offset and its number stand in front of its items. -/
theorem list?_eq_some_iff {size : Nat} {content : Bytes} {items : List Nat} :
    list? size content = some items ↔ AllFit items ∧ ∃ count < wordBound,
      items.length = size * count ∧ content = behindOffset (word count ++ words items) := by
  unfold list? behindOffset
  simp only [Option.bind_eq_bind, Option.bind_eq_some_iff, words?_eq_some_iff]
  constructor
  · rintro ⟨values, ⟨written, fit⟩, taken⟩
    rcases values with _ | ⟨offset, _ | ⟨count, values⟩⟩
    · cases taken
    · cases taken
    · simp only [Bool.and_eq_true, decide_eq_true_eq] at taken
      split at taken
      case isTrue shaped =>
        obtain ⟨rfl, sized⟩ := shaped
        cases taken
        obtain ⟨-, others⟩ := allFit_cons.mp fit
        obtain ⟨fits, fit⟩ := allFit_cons.mp others
        exact ⟨fit, count, fits, sized, written⟩
      case isFalse => cases taken
  · rintro ⟨fit, count, fits, sized, written⟩
    refine ⟨wordSize :: count :: items, ⟨written, ?_⟩, ?_⟩
    · exact allFit_cons.mpr ⟨by decide, allFit_cons.mpr ⟨fits, fit⟩⟩
    · simp [sized]

end Abi

namespace AdapterContract

open Abi

/-- What a contract reports of a feed. -/
structure Report where
  dataTimestamp : Nat
  blockSeconds : Nat
  value : Nat
  deriving DecidableEq, Repr

namespace Report

def values (report : Report) : List Nat :=
  [report.dataTimestamp, report.blockSeconds, report.value]

/-- What is stored of a report: timestamps in milliseconds, or the largest one that there is. -/
def snapshot (report : Report) : Snapshot :=
  ⟨min report.dataTimestamp (2 ^ 64 - 1), min (1000 * report.blockSeconds) (2 ^ 64 - 1),
    report.value⟩

end Report

theorem millisOfSeconds_eq (seconds : Nat) :
    millisOfSeconds seconds = min (1000 * seconds) (2 ^ 64 - 1) := by
  change (min (min seconds (2 ^ 64 - 1) * 1000) (2 ^ 64 - 1) : Nat) = _
  omega

theorem snapshot_eq (dataTimestamp blockSeconds value : Nat) :
    snapshot dataTimestamp blockSeconds value =
      Report.snapshot ⟨dataTimestamp, blockSeconds, value⟩ := by
  rw [snapshot, millisOfSeconds_eq]
  rfl

/-- The answer that reports each of several feeds. -/
def detailsAnswer (reports : List Report) : Bytes :=
  behindOffset (list (reports.map fun report => words report.values))

def valuesAnswer (values : List Nat) : Bytes := behindOffset (list (values.map word))

def timestampsAnswer (dataTimestamp blockSeconds : Nat) : Bytes :=
  word dataTimestamp ++ word blockSeconds

theorem details_values (reports : List Report) :
    details (reports.flatMap Report.values) = some (reports.map Report.snapshot) := by
  induction reports with
  | nil => rfl
  | cons report reports ih =>
    rw [List.flatMap_cons, Report.values, List.cons_append, List.cons_append, List.cons_append,
      List.nil_append, details, ih, List.map_cons, snapshot_eq]
    rfl

theorem eq_values_of_details {items : List Nat} {snapshots : List Snapshot}
    (read : details items = some snapshots) : ∃ reports : List Report,
      items = reports.flatMap Report.values := by
  induction items using details.induct generalizing snapshots with
  | case1 => exact ⟨[], rfl⟩
  | case2 dataTimestamp blockSeconds value rest ih =>
    rw [details] at read
    obtain ⟨others, later, -⟩ := Option.bind_eq_some_iff.mp read
    obtain ⟨reports, same⟩ := ih later
    exact ⟨⟨dataTimestamp, blockSeconds, value⟩ :: reports, by rw [same]; rfl⟩
  | case3 items nonempty short =>
    rw [details] at read
    · cases read
    · exact nonempty
    · exact short

theorem words_values (reports : List Report) :
    words (reports.flatMap Report.values) =
      (reports.map fun report => words report.values).flatten := by
  induction reports with
  | nil => rfl
  | cons report reports ih =>
    rw [List.flatMap_cons, words_append, ih, List.map_cons, List.flatten_cons]

theorem length_values (reports : List Report) :
    (reports.flatMap Report.values).length = 3 * reports.length := by
  induction reports with
  | nil => rfl
  | cons report reports ih =>
    rw [List.flatMap_cons, List.length_append, ih, List.length_cons, Nat.mul_succ, Nat.add_comm]
    rfl

/-- Each of the reports fits into its words, and their number into a word. -/
structure Writable (reports : List Report) : Prop where
  fits : ∀ report ∈ reports, AllFit report.values
  short : reports.length < wordBound

theorem allFit_values_iff {reports : List Report} :
    AllFit (reports.flatMap Report.values) ↔ ∀ report ∈ reports, AllFit report.values :=
  List.forall_mem_flatMap

theorem details?_eq_some_iff {answer : Bytes} {snapshots : List Snapshot} :
    details? answer = some snapshots ↔ ∃ reports, Writable reports ∧
      answer = detailsAnswer reports ∧ snapshots = reports.map Report.snapshot := by
  rw [details?, Option.bind_eq_bind, Option.bind_eq_some_iff]
  constructor
  · rintro ⟨items, listed, read⟩
    obtain ⟨fit, count, short, sized, written⟩ := list?_eq_some_iff.mp listed
    obtain ⟨reports, rfl⟩ := eq_values_of_details read
    have counted : reports.length = count := by
      rw [length_values] at sized
      exact Nat.eq_of_mul_eq_mul_left (by decide) sized
    subst counted
    refine ⟨reports, ⟨allFit_values_iff.mp fit, short⟩, ?_, ?_⟩
    · rw [written, detailsAnswer, list, List.length_map, words_values]
    · exact Option.some.inj (read.symm.trans (details_values reports))
  · rintro ⟨reports, writable, rfl, rfl⟩
    refine ⟨reports.flatMap Report.values, list?_eq_some_iff.mpr ?_, details_values reports⟩
    refine ⟨allFit_values_iff.mpr writable.fits, reports.length, writable.short,
      length_values reports, ?_⟩
    rw [detailsAnswer, list, List.length_map, words_values]

/-- Values are read where they are written as a list. -/
theorem values?_eq_some_iff {answer : Bytes} {values : List Nat} :
    values? answer = some values ↔
      AllFit values ∧ values.length < wordBound ∧ answer = valuesAnswer values := by
  rw [values?, list?_eq_some_iff, valuesAnswer, list, List.length_map]
  simp only [Nat.one_mul]
  constructor
  · rintro ⟨fit, count, short, rfl, written⟩
    exact ⟨fit, short, written⟩
  · rintro ⟨fit, short, written⟩
    exact ⟨fit, values.length, short, rfl, written⟩

/-- Timestamps are read where they are written as two words, of which half is used. -/
theorem timestamps?_eq_some_iff {answer : Bytes} {dataTimestamp blockSeconds : Nat} :
    timestamps? answer = some (dataTimestamp, blockSeconds) ↔
      dataTimestamp < 2 ^ 128 ∧ blockSeconds < 2 ^ 128 ∧
        answer = timestampsAnswer dataTimestamp blockSeconds := by
  rw [timestamps?, Option.bind_eq_bind, Option.bind_eq_some_iff]
  simp only [words?_eq_some_iff]
  constructor
  · rintro ⟨values, ⟨written, fit⟩, taken⟩
    split at taken
    case h_1 first second =>
      simp only [Bool.and_eq_true, decide_eq_true_eq] at taken
      split at taken
      case isTrue half =>
        cases taken
        exact ⟨half.1, half.2, by simpa [words, timestampsAnswer] using written⟩
      case isFalse => cases taken
    case h_2 => cases taken
  · rintro ⟨low, alsoLow, written⟩
    refine ⟨[dataTimestamp, blockSeconds], ⟨?_, ?_⟩, ?_⟩
    · simpa [words, timestampsAnswer] using written
    · have fits {value : Nat} (low : value < 2 ^ 128) : value < wordBound :=
        Nat.lt_trans low (by decide)
      exact allFit_cons.mpr ⟨fits low, allFit_cons.mpr ⟨fits alsoLow, List.forall_mem_nil _⟩⟩
    · simp [low, alsoLow]

end AdapterContract

end PriceRelay
