import PriceRelay.Config.Loading
/-!
What filling the placeholders of a text gives. The text is cut at its placeholders from left to
right, the leftmost first, and each of them gives way to its value. Where the cuts are does not
depend on the values, so no value is looked at again.
-/

namespace PriceRelay

namespace Placeholder

/-- A letter or an underscore. -/
def StartsName (c : Char) : Prop := 'A' ≤ c ∧ c ≤ 'Z' ∨ 'a' ≤ c ∧ c ≤ 'z' ∨ c = '_'

def ContinuesName (c : Char) : Prop := StartsName c ∨ '0' ≤ c ∧ c ≤ '9'

/-- A letter or an underscore, and then letters, digits and underscores. -/
inductive IsName : List Char → Prop where
  | intro {first : Char} {rest : List Char} (starts : StartsName first)
      (continues : ∀ c ∈ rest, ContinuesName c) : IsName (first :: rest)

/-- A placeholder stands in front. -/
def Begins (text : List Char) : Prop := ∃ name rest, IsName name ∧ text = written name ++ rest

/-- No placeholder begins before the rest of a text does. -/
def Free (gap rest : List Char) : Prop :=
  ∀ before after, gap = before ++ after → after ≠ [] → ¬Begins (after ++ rest)

/-- A text cut at its placeholders: the leftmost one with the gap in front of it, then those of the
rest, and the tail behind the last. -/
inductive Cut : List Char → List (List Char × List Char) → List Char → Prop where
  | last {text : List Char} (free : Free text []) : Cut text [] text
  | next {gap name rest tail : List Char} {parts : List (List Char × List Char)}
      (free : Free gap (written name ++ rest)) (named : IsName name)
      (onward : Cut rest parts tail) :
      Cut (gap ++ (written name ++ rest)) ((gap, name) :: parts) tail

/-- A text with values in the places of its placeholders. -/
def filled (environment : Environment) (parts : List (List Char × List Char)) (tail : List Char) :
    List Char :=
  parts.flatMap (fun (gap, name) => gap ++ valueOf environment name) ++ tail

def unset : Environment := fun _ => none

section Names

variable {c : Char} {name other text rest more : List Char}

theorem isNameStart_iff : isNameStart c = true ↔ StartsName c := by
  have letter : c.isAlpha = (decide ('A' ≤ c ∧ c ≤ 'Z') ||
      decide ('a' ≤ c) && decide (c ≤ 'z')) := rfl
  simp [isNameStart, StartsName, letter, or_assoc]

theorem isNamePart_iff : isNamePart c = true ↔ ContinuesName c := by
  rw [ContinuesName, ← isNameStart_iff]
  simp [isNamePart, isNameStart, Char.isAlphanum, Char.isDigit, Char.le_def, or_right_comm]

theorem name?_eq_some_iff :
    name? text = some (name, rest) ↔ IsName name ∧ text = name ++ '}' :: rest := by
  constructor
  · intro found
    unfold name? at found
    split at found
    · rename_i first others
      split at found
      · rename_i starts
        split at found
        · rename_i after closed
          obtain ⟨rfl, rfl⟩ := Prod.mk.inj (Option.some.inj found)
          refine ⟨.intro (isNameStart_iff.mp starts) ?_, ?_⟩
          · intro c member
            exact isNamePart_iff.mp (List.all_eq_true.mp List.all_takeWhile c member)
          · rw [List.cons_append, ← closed, List.takeWhile_append_dropWhile]
        · cases found
      · cases found
    · cases found
  · rintro ⟨⟨starts, continues⟩, rfl⟩
    rename_i first others
    have parts : ∀ c ∈ others, isNamePart c = true := fun c member =>
      isNamePart_iff.mpr (continues c member)
    have brace : ¬isNamePart '}' = true := by decide
    rw [List.cons_append, name?, if_pos (isNameStart_iff.mpr starts),
      List.dropWhile_append_of_pos parts, List.dropWhile_cons_of_neg brace,
      List.takeWhile_append_of_pos parts, List.takeWhile_cons_of_neg brace, List.append_nil]
    rfl

theorem written_append_inj (named : IsName name) (alsoNamed : IsName other)
    (same : written name ++ rest = written other ++ more) : name = other ∧ rest = more := by
  have inside : name ++ '}' :: rest = other ++ '}' :: more := by simpa [written] using same
  have found : name? (name ++ '}' :: rest) = some (name, rest) :=
    name?_eq_some_iff.mpr ⟨named, rfl⟩
  have alsoFound : name? (name ++ '}' :: rest) = some (other, more) :=
    name?_eq_some_iff.mpr ⟨alsoNamed, inside⟩
  exact Prod.mk.inj (Option.some.inj (found.symm.trans alsoFound))

theorem begins_open_iff : Begins ('$' :: '{' :: text) ↔ (name? text).isSome := by
  constructor
  · rintro ⟨name, rest, named, same⟩
    have inside : text = name ++ '}' :: rest := by simpa [written] using same
    exact Option.isSome_iff_exists.mpr ⟨_, name?_eq_some_iff.mpr ⟨named, inside⟩⟩
  · intro found
    obtain ⟨⟨name, rest⟩, found⟩ := Option.isSome_iff_exists.mp found
    obtain ⟨named, rfl⟩ := name?_eq_some_iff.mp found
    exact ⟨name, rest, named, by simp [written]⟩

end Names

section Scan

variable {environment : Environment} {c : Char} {name gap text rest tail : List Char}
  {parts : List (List Char × List Char)}

/-- A placeholder gives way to its value, and the scan goes on behind it. -/
theorem expandChars_written (named : IsName name) :
    expandChars environment (written name ++ rest) =
      valueOf environment name ++ expandChars environment rest := by
  have found : name? (name ++ '}' :: rest) = some (name, rest) :=
    name?_eq_some_iff.mpr ⟨named, rfl⟩
  have opened : written name ++ rest = '$' :: '{' :: (name ++ '}' :: rest) := by
    simp [written]
  rw [opened, expandChars]
  split
  · rename_i found'
    rw [found] at found'
    obtain ⟨rfl, rfl⟩ := Prod.mk.inj (Option.some.inj found')
    rfl
  · rename_i missing
    rw [found] at missing
    cases missing

/-- Where no placeholder begins a character stays, and the scan goes on right behind it. -/
theorem expandChars_cons (plain : ¬Begins (c :: rest)) :
    expandChars environment (c :: rest) = c :: expandChars environment rest := by
  rw [expandChars.eq_def]
  split
  · rename_i empty
    cases empty
  · rename_i inside opened
    obtain ⟨rfl, rfl⟩ := List.cons.inj opened
    split
    · rename_i found
      exact absurd (begins_open_iff.mpr (Option.isSome_of_eq_some found)) plain
    · rfl
  · rename_i single
    obtain ⟨rfl, rfl⟩ := List.cons.inj single
    rfl

theorem free_nil : Free [] rest := by
  intro before after split present
  obtain ⟨-, rfl⟩ := List.append_eq_nil_iff.mp split.symm
  exact absurd rfl present

theorem free_cons_iff : Free (c :: gap) rest ↔ ¬Begins (c :: (gap ++ rest)) ∧ Free gap rest := by
  constructor
  · intro free
    refine ⟨free [] (c :: gap) rfl (List.cons_ne_nil c gap), ?_⟩
    rintro before after rfl present
    exact free (c :: before) after rfl present
  · rintro ⟨plain, free⟩ before after split present
    rcases List.cons_eq_append_iff.mp split with ⟨rfl, rfl⟩ | ⟨shorter, rfl, rfl⟩
    · exact plain
    · exact free shorter after rfl present

theorem expandChars_gap (free : Free gap rest) :
    expandChars environment (gap ++ rest) = gap ++ expandChars environment rest := by
  induction gap with
  | nil => rfl
  | cons c gap ih =>
    obtain ⟨plain, free⟩ := free_cons_iff.mp free
    rw [List.cons_append, expandChars_cons plain, ih free, List.cons_append]

/-- Expanding a text is filling its cut. -/
theorem Cut.expandChars_eq (cut : Cut text parts tail) :
    expandChars environment text = filled environment parts tail := by
  induction cut with
  | last free =>
    rename_i text
    have kept : expandChars environment (text ++ []) = text ++ expandChars environment [] :=
      expandChars_gap free
    simpa [expandChars, filled] using kept
  | next free named onward ih =>
    rw [expandChars_gap free, expandChars_written named, ih]
    simp [filled]

theorem Cut.filled_unset (cut : Cut text parts tail) : filled unset parts tail = text := by
  induction cut with
  | last free => rfl
  | next free named onward ih =>
    rename_i gap name rest tail parts
    have same : valueOf unset name = written name := rfl
    simpa [filled, same] using ih

end Scan

section Cutting

variable {text rest tail : List Char} {parts others : List (List Char × List Char)}

/-- Every text can be cut. -/
theorem exists_cut (text : List Char) : ∃ parts tail, Cut text parts tail := by
  -- On the length: the rest behind a placeholder is no tail of the text by one character.
  induction size : text.length using Nat.strongRecOn generalizing text with
  | ind size ih =>
    subst size
    by_cases begins : Begins text
    · obtain ⟨name, rest, named, rfl⟩ := begins
      have shorter : rest.length < (written name ++ rest).length := by
        rw [List.length_append]
        exact Nat.lt_add_of_pos_left (by simp [written])
      obtain ⟨parts, tail, onward⟩ := ih _ shorter rest rfl
      exact ⟨([], name) :: parts, tail, .next free_nil named onward⟩
    · cases text with
      | nil => exact ⟨[], [], .last free_nil⟩
      | cons c text =>
        -- A character in front makes the first gap longer, or the tail where there is no gap.
        obtain ⟨parts, tail, cut⟩ := ih _ (Nat.lt_succ_self text.length) text rfl
        cases cut with
        | last free =>
          exact ⟨[], c :: text, .last (free_cons_iff.mpr ⟨by simpa using begins, free⟩)⟩
        | next free named onward =>
          exact ⟨(c :: _, _) :: _, tail, .next (free_cons_iff.mpr ⟨begins, free⟩) named onward⟩

theorem Free.ends {gap more : List Char} (free : Free (gap ++ more) rest)
    (begins : Begins (more ++ rest)) : more = [] := by
  by_cases empty : more = []
  · exact empty
  · exact absurd begins (free gap more rfl empty)

/-- The leftmost placeholder is in one place. -/
theorem gap_unique {gap gap' name name' rest' : List Char} (free : Free gap (written name ++ rest))
    (named : IsName name) (free' : Free gap' (written name' ++ rest')) (named' : IsName name')
    (same : gap ++ (written name ++ rest) = gap' ++ (written name' ++ rest')) :
    gap' = gap ∧ name' = name ∧ rest' = rest := by
  have whole : gap' = gap := by
    rcases List.append_eq_append_iff.mp same with ⟨more, rfl, onward⟩ | ⟨more, rfl, onward⟩
    · rw [free'.ends ⟨name, rest, named, onward.symm⟩, List.append_nil]
    · rw [free.ends ⟨name', rest', named', onward.symm⟩, List.append_nil]
  subst whole
  exact ⟨rfl, written_append_inj named' named (List.append_cancel_left same).symm⟩

/-- A text that holds a placeholder is no gap. -/
theorem not_free_written {gap name : List Char} (named : IsName name) :
    ¬Free (gap ++ (written name ++ rest)) [] := by
  intro free
  have empty := free.ends ⟨name, rest, named, List.append_nil _⟩
  simp [written] at empty

theorem Cut.unique (cut : Cut text parts tail) (again : Cut text others rest) :
    others = parts ∧ rest = tail := by
  induction cut generalizing others rest with
  | last free =>
    cases again with
    | last free' => exact ⟨rfl, rfl⟩
    | next free' named' onward' => exact absurd free (not_free_written named')
  | next free named onward ih =>
    rename_i gap name behind tail parts
    -- The other cut is of the whole text, which it may take apart in another place.
    generalize same : gap ++ (written name ++ behind) = whole at again
    cases again with
    | last free' => exact absurd (same ▸ free') (not_free_written named)
    | next free' named' onward' =>
      obtain ⟨rfl, rfl, rfl⟩ := gap_unique free named free' named' same
      obtain ⟨rfl, rfl⟩ := ih onward'
      exact ⟨rfl, rfl⟩

end Cutting

/-- Where no variable has a value a text stays as it is. -/
theorem expand_unset (text : String) : expand unset text = text := by
  obtain ⟨parts, tail, cut⟩ := exists_cut text.toList
  rw [expand, cut.expandChars_eq, cut.filled_unset, String.ofList_toList]

/-- The law of expansion, for every text. It has one cut at its leftmost placeholders; in every
environment these give way to their values and all else stays. What comes out is not expanded
again: a configuration is read from it as it is. -/
theorem expand_onePass (text : String) :
    ∃ parts tail,
      (∀ others rest, Cut text.toList others rest ↔ others = parts ∧ rest = tail) ∧
      ∀ environment,
        expand environment text = String.ofList (filled environment parts tail) ∧
        Config.ofText environment text = Config.ofText unset (expand environment text) := by
  obtain ⟨parts, tail, cut⟩ := exists_cut text.toList
  refine ⟨parts, tail, ?_, ?_⟩
  · intro others rest
    constructor
    · exact cut.unique
    · rintro ⟨rfl, rfl⟩
      exact cut
  · intro environment
    constructor
    · rw [expand, cut.expandChars_eq]
    · rw [Config.ofText, Config.ofText, expand_unset]

/-- A has a value that looks like a placeholder of B, and B has one. -/
def ofTwo (name : String) : Option String :=
  if name = "A" then some (String.ofList (written ['B'])) else if name = "B" then some "b" else none

example :
    expandChars ofTwo (['$', '{', 'A'] ++ written ['B'] ++ ['}', ' ', '$'] ++ written ['A'] ++
      written ['C']) =
    ['$', '{', 'A', 'b', '}', ' ', '$'] ++ written ['B'] ++ written ['C'] := by cbv

end Placeholder

end PriceRelay
