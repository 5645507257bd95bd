import PriceRelay.Number.Text
import PriceRelay.Text.JsonText
/-!
JSON documents to be written. Their members keep the order in which they are given, and the written
form has no blanks.
-/

namespace PriceRelay

inductive Document where
  | null
  | bool (value : Bool)
  | natural (value : Nat)
  /-- A binary64 number. One that is not finite is written as `null`. -/
  | number (value : Float)
  | text (value : String)
  | list (items : List Document)
  | object (members : List (String × Document))

namespace Document

variable {α : Type}

/-- A value that may be absent. -/
def optional (ofValue : α → Document) : Option α → Document
  | some value => ofValue value
  | none => .null

/-- A list of values. -/
def each (ofValue : α → Document) (values : List α) : Document := .list (values.map ofValue)

def texts : List String → Document := each .text

/-- A number that is too large for some readers, as a text. -/
def decimal (value : Nat) : Document := .text (toString value)

mutual

/-- The written form. -/
def render : Document → String
  | .null => "null"
  | .bool value => if value then "true" else "false"
  | .natural value => toString value
  | .number value => (Number.json? value).getD "null"
  | .text value => Text.jsonText value
  | .list items => "[" ++ ",".intercalate (renderItems items) ++ "]"
  | .object members =>
    String.singleton '{' ++ ",".intercalate (renderMembers members) ++ String.singleton '}'

def renderItems : List Document → List String
  | [] => []
  | item :: rest => item.render :: renderItems rest

def renderMembers : List (String × Document) → List String
  | [] => []
  | (name, value) :: rest => (Text.jsonText name ++ ":" ++ value.render) :: renderMembers rest

end

end Document

end PriceRelay
