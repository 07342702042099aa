import ClipRank.Binary64.Numeral

/-!
TOML values, and the rules by which the lines of a document build up its tables.
-/

namespace ClipRank.Toml

/-- How a table came to be, which decides what may still be added to it. -/
inductive Origin where
  /-- Written in braces: complete. -/
  | inline
  /-- On the way to a table with a header of its own. -/
  | implied
  /-- By its own header. -/
  | header
  /-- By a dotted key. -/
  | dotted
deriving DecidableEq

inductive Value where
  | string (text : String)
  | integer (value : Int)
  /-- A double, without a value if the literal is beyond the range. -/
  | float (value : Option Float)
  | boolean (value : Bool)
  /-- A date, a time or both. -/
  | moment
  /-- An array, which grows only if it was begun by a header in double brackets. -/
  | array (items : List Value) (ofTables : Bool)
  | table (origin : Origin) (members : List (String × Value))

mutual

/-- Whether every number in a value is within its range: whole numbers of 128 bits,
signed or not, and finite doubles other than those written as infinite. -/
def Value.fits : Value → Bool
  | .integer value => -(Nat.pow 2 127 : Int) ≤ value && value < Nat.pow 2 128
  | .float value => value.isSome
  | .array items _ => itemsFit items
  | .table _ members => membersFit members
  | .string _ | .boolean _ | .moment => true

def itemsFit : List Value → Bool
  | [] => true
  | item :: rest => item.fits && itemsFit rest

def membersFit : List (String × Value) → Bool
  | [] => true
  | (_, value) :: rest => value.fits && membersFit rest

end

abbrev Table := List (String × Value)

namespace Table

def get? (table : Table) (key : String) : Option Value :=
  (table.find? (·.1 = key)).map (·.2)

/-- Replaces the value of a key that is present, or adds it at the end. -/
def set (table : Table) (key : String) (value : Value) : Table :=
  match table with
  | [] => [(key, value)]
  | (first, held) :: rest =>
    if first = key then (key, value) :: rest else (first, held) :: set rest key value

/-- Enters a value under a dotted key, which must be new. The last table on the way
has to come from dotted keys too. The ones before it may also be implied, or be the
last of an array, but not have a header or braces. -/
def define (table : Table) (value : Value) : List String → Option Table
  | [] => none
  | [key] => if (table.get? key).isSome then none else some (table.set key value)
  | key :: path =>
    match table.get? key with
    | none => (define [] value path).map fun inner => table.set key (.table .dotted inner)
    | some (.table origin inner) =>
      if origin = .dotted ∨ origin = .implied ∧ 1 < path.length then
        (define inner value path).map fun inner => table.set key (.table origin inner)
      else none
    | some (.array items true) =>
      match items.getLast? with
      | some (.table origin inner) =>
        if 1 < path.length then
          (define inner value path).map fun inner =>
            table.set key (.array (items.dropLast ++ [.table origin inner]) true)
        else none
      | _ => none
    | some _ => none

/-- Changes the table at the end of a header, in the last of the tables where the
way goes through an array of them. -/
def update (table : Table) (change : Table → Option Table) : List String → Option Table
  | [] => change table
  | key :: path =>
    match table.get? key with
    | none => (update [] change path).map fun inner => table.set key (.table .implied inner)
    | some (.table origin inner) =>
      if origin = .inline then none
      else (update inner change path).map fun inner => table.set key (.table origin inner)
    | some (.array items true) =>
      match items.getLast? with
      | some (.table origin inner) =>
        (update inner change path).map fun inner =>
          table.set key (.array (items.dropLast ++ [.table origin inner]) true)
      | _ => none
    | some _ => none

/-- Opens the table of a header. It may have been implied before, but not given. -/
def openTable (table : Table) (path : List String) : Option Table :=
  match path.getLast? with
  | none => none
  | some key =>
    table.update (fun held =>
      match held.get? key with
      | none => some (held.set key (.table .header []))
      | some (.table .implied inner) => some (held.set key (.table .header inner))
      | some _ => none) path.dropLast

/-- Adds a table to the array of a header in double brackets. -/
def openItem (table : Table) (path : List String) : Option Table :=
  match path.getLast? with
  | none => none
  | some key =>
    table.update (fun held =>
      match held.get? key with
      | none => some (held.set key (.array [.table .header []] true))
      | some (.array items true) => some (held.set key (.array (items ++ [.table .header []]) true))
      | some _ => none) path.dropLast

end Table

end ClipRank.Toml
