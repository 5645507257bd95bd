import PriceRelay.Calendar.Moment
/-!
TOML documents as values. A table remembers how it came to be, because that decides what later lines
may still add to it.
-/

namespace PriceRelay

/-- How a table came to be. -/
inductive TableOrigin where
  /-- By a header of its own. -/
  | header
  /-- As a parent in the header of another table. -/
  | implied
  /-- By a dotted key. -/
  | dotted
  /-- Written in braces. Nothing can be added. -/
  | inline
  deriving DecidableEq, Repr

inductive Toml where
  | text (value : String)
  | integer (value : Int)
  | float (value : Float)
  | bool (value : Bool)
  /-- A date, a time of day or both. -/
  | date
  /-- An array; one of tables grows with each of its headers. -/
  | array (grows : Bool) (items : List Toml)
  | table (origin : TableOrigin) (members : List (String × Toml))

namespace Toml

/-- The members of a table. -/
abbrev Members := List (String × Toml)

/-- Replace the value of a key, or add the key at the end. -/
def put (members : Members) (key : String) (value : Toml) : Members :=
  match members with
  | [] => [(key, value)]
  | (other, old) :: rest =>
    if other = key then (key, value) :: rest else (other, old) :: put rest key value

/-- Change the members behind a path of header keys. Missing tables are implied, and an array of
tables stands for its last item. -/
def alter (members : Members) (path : List String) (change : Members → Option Members) :
    Option Members :=
  match path with
  | [] => change members
  | key :: path =>
    match members.lookup key with
    | none => do return put members key (.table .implied (← alter [] path change))
    | some (.table .inline _) => none
    | some (.table origin inner) => do
      return put members key (.table origin (← alter inner path change))
    | some (.array true items) =>
      match items.getLast? with
      | some (.table origin inner) => do
        let last := Toml.table origin (← alter inner path change)
        return put members key (.array true (items.dropLast ++ [last]))
      | _ => none
    | some _ => none

/-- Add a value under a dotted key. The table that receives the value has to come from dotted keys
too; on the way there, tables without a header and the last items of arrays are passed. -/
def assign (members : Members) (path : List String) (key : String) (value : Toml) :
    Option Members :=
  match path with
  | [] => if (members.lookup key).isSome then none else some (members ++ [(key, value)])
  | outer :: path =>
    match members.lookup outer with
    | none => do return members ++ [(outer, .table .dotted (← assign [] path key value))]
    | some (.table origin inner) =>
      if origin = .dotted || (origin = .implied && !path.isEmpty) then do
        return put members outer (.table origin (← assign inner path key value))
      else none
    | some (.array true items) =>
      match items.getLast? with
      | some (.table origin inner) =>
        if path.isEmpty then none
        else do
          let last := Toml.table origin (← assign inner path key value)
          return put members outer (.array true (items.dropLast ++ [last]))
      | _ => none
    | some _ => none

/-- Open a table by its header. Each table is opened once. -/
def openTable (members : Members) (path : List String) (key : String) : Option Members :=
  alter members path fun members =>
    match members.lookup key with
    | none => some (put members key (.table .header []))
    | some (.table .implied inner) => some (put members key (.table .header inner))
    | some _ => none

/-- Begin a further item of an array of tables. -/
def openItem (members : Members) (path : List String) (key : String) : Option Members :=
  alter members path fun members =>
    match members.lookup key with
    | none => some (put members key (.array true [.table .header []]))
    | some (.array true items) =>
      some (put members key (.array true (items ++ [.table .header []])))
    | some _ => none

end Toml

end PriceRelay
