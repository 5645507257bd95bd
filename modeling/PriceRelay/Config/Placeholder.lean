/-!
Placeholders `${NAME}` in a text. One pass from left to right replaces each by the value of its
variable; a placeholder without a value, and all that is no placeholder, stays as it is.
-/

namespace PriceRelay.Placeholder

/-- The values of variables. -/
abbrev Environment := String → Option String

def isNameStart (c : Char) : Bool := c.isAlpha || c = '_'

def isNamePart (c : Char) : Bool := c.isAlphanum || c = '_'

/-- The name in front of a closing brace, and what follows the brace. -/
def name? (chars : List Char) : Option (List Char × List Char) :=
  match chars with
  | first :: rest =>
    if isNameStart first then
      match rest.dropWhile isNamePart with
      | '}' :: after => some (first :: rest.takeWhile isNamePart, after)
      | _ => none
    else none
  | [] => none

/-- What follows a name is shorter than the text it was found in. -/
theorem length_of_name? {chars name after : List Char} (found : name? chars = some (name, after)) :
    after.length < chars.length := by
  unfold name? at found
  split at found
  · rename_i first rest
    split at found
    · split at found
      · rename_i after' closed
        have shorter := (List.dropWhile_sublist (l := rest) isNamePart).length_le
        rw [closed] at shorter
        cases found
        simp only [List.length_cons] at *
        omega
      · cases found
    · cases found
  · cases found

/-- A placeholder as written. -/
def written (name : List Char) : List Char := ['$', '{'] ++ name ++ ['}']

/-- The value of a variable, or the placeholder itself. -/
def valueOf (environment : Environment) (name : List Char) : List Char :=
  match environment (String.ofList name) with
  | some value => value.toList
  | none => written name

def expandChars (environment : Environment) : List Char → List Char
  | [] => []
  | '$' :: '{' :: rest =>
    match _found : name? rest with
    | some (name, after) => valueOf environment name ++ expandChars environment after
    | none => '$' :: expandChars environment ('{' :: rest)
  | c :: rest => c :: expandChars environment rest
termination_by chars => chars.length
decreasing_by
  · have := length_of_name? _found
    simp only [List.length_cons]
    omega
  · simp
  · simp

def expand (environment : Environment) (text : String) : String :=
  String.ofList (expandChars environment text.toList)

end PriceRelay.Placeholder
