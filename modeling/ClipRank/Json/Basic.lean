import ClipRank.Binary64.Basic

/-!
JSON values. An object is the list of its members in the order of first
appearance, and an operation that adds a member never repeats a key.
-/

namespace ClipRank

/-- A number: a whole number of one word, the magnitude of a negative whole
number down to `-2 ^ 63`, or a double. The three kinds stay apart, so `1` and
`1.0` are different values. -/
inductive Number where
  | unsigned (value : UInt64)
  | negative (magnitude : UInt64)
  | real (value : Float)
deriving DecidableEq

namespace Number

def toFloat : Number → Float
  | unsigned value => value.toFloat
  | negative magnitude => -magnitude.toFloat
  | real value => value

def toUInt64? : Number → Option UInt64
  | unsigned value => some value
  | _ => none

/-- Equality within one kind. Zeros of either sign are equal. -/
def equal : Number → Number → Bool
  | unsigned a, unsigned b => a == b
  | negative a, negative b => a == b
  | real a, real b => a == b
  | _, _ => false

end Number

inductive Json where
  | null
  | boolean (value : Bool)
  | number (value : Number)
  | string (value : String)
  | array (items : List Json)
  | object (members : List (String × Json))

/-- The members of an object. -/
abbrev Members := List (String × Json)

namespace Members

def get? (members : Members) (key : String) : Option Json :=
  (members.find? (·.1 = key)).map (·.2)

/-- Replaces the value of a key in its place, or adds the member at the end. -/
def insert (members : Members) (key : String) (value : Json) : Members :=
  match members with
  | [] => [(key, value)]
  | (first, held) :: rest =>
    if first = key then (first, value) :: rest else (first, held) :: insert rest key value

/-- The members with each key once, in its first place and with its last value. -/
def ofList (members : List (String × Json)) : Members :=
  members.foldl (fun held (key, value) => insert held key value) []

end Members

namespace Json

def get? : Json → String → Option Json
  | object members, key => Members.get? members key
  | _, _ => none

/-- The double nearest to a number. -/
def toFloat? : Json → Option Float
  | number value => some value.toFloat
  | _ => none

def toString? : Json → Option String
  | string value => some value
  | _ => none

def ofUInt64 (value : UInt64) : Json :=
  number (.unsigned value)

def ofNat (value : Nat) : Json :=
  number (.unsigned value.toUInt64)

/-- A number, or null if the double is not finite. -/
def ofFloat (value : Float) : Json :=
  if value.isFinite then number (.real value) else null

mutual

/-- Equality of values. Objects are equal with their members in any order. -/
def equal : Json → Json → Bool
  | null, null => true
  | boolean a, boolean b => a == b
  | number a, number b => a.equal b
  | string a, string b => a == b
  | array as, array bs => equalItems as bs
  | object as, object bs => as.length == bs.length && equalMembers as bs
  | _, _ => false

def equalItems : List Json → List Json → Bool
  | [], [] => true
  | a :: as, b :: bs => equal a b && equalItems as bs
  | _, _ => false

/-- Whether every member of the first object is in the second. -/
def equalMembers : List (String × Json) → List (String × Json) → Bool
  | [], _ => true
  | (key, a) :: rest, bs =>
    (match Members.get? bs key with
      | some b => equal a b
      | none => false) && equalMembers rest bs

end

end Json

end ClipRank
