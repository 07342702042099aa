import ClipRank.Json.Printer
import ClipRank.Text.Quoted

/-!
Why a JSON document could not be read as a typed value, and how that is said.
-/

namespace ClipRank.Json

/-- What stood in a document where something else was wanted. -/
inductive Found where
  | null
  | boolean (value : Bool)
  | number (value : Number)
  | string (value : String)
  | sequence
  | map
  | variant

namespace Found

def describe : Found → String
  | null => "null"
  | boolean value => "boolean `" ++ (if value then "true" else "false") ++ "`"
  | number (.real value) => "floating point `" ++ String.ofList (printNumber (.real value)) ++ "`"
  | number value => "integer `" ++ String.ofList (printNumber value) ++ "`"
  | string value => "string " ++ Text.quoted value
  | sequence => "sequence"
  | map => "map"
  | variant => "unit variant"

end Found

inductive Mismatch where
  | type (found : Found) (expected : String)
  | value (found : Found) (expected : String)
  | length (count : Nat) (expected : String)
  | missing (field : String)
  | duplicate (field : String)
  | variant (name : String) (known : List String)
  /-- A text in a notation of its own, such as a timestamp, that does not parse. -/
  | unparsed (reason : String)
  | rule (text : String)

namespace Mismatch

/-- A list of alternatives in words. -/
def oneOf : List String → String
  | [] => "there are no variants"
  | [a] => "expected `" ++ a ++ "`"
  | [a, b] => "expected `" ++ a ++ "` or `" ++ b ++ "`"
  | names => "expected one of " ++ ", ".intercalate (names.map fun name => "`" ++ name ++ "`")

def message : Mismatch → String
  | type found expected => "invalid type: " ++ found.describe ++ ", expected " ++ expected
  | value found expected => "invalid value: " ++ found.describe ++ ", expected " ++ expected
  | length count expected => "invalid length " ++ toString count ++ ", expected " ++ expected
  | missing field => "missing field `" ++ field ++ "`"
  | duplicate field => "duplicate field `" ++ field ++ "`"
  | variant name known => "unknown variant `" ++ name ++ "`, " ++ oneOf known
  | unparsed reason => reason
  | rule text => text

end Mismatch

/-- A step from a value to one of its parts. -/
inductive Step where
  | key (name : String)
  | index (position : Nat)

/-- A document is malformed if its text breaks the grammar or a limit on values;
otherwise a part of it does not fit the type. -/
inductive Fault where
  | malformed
  | mismatch (path : List Step) (cause : Mismatch)

namespace Fault

/-- The same fault seen from one level further out. -/
def within (step : Step) : Fault → Fault
  | malformed => malformed
  | mismatch path cause => mismatch (step :: path) cause

def ofMismatch (cause : Mismatch) : Fault :=
  mismatch [] cause

/-- A path with points between its keys and positions in brackets. -/
def renderPath : List Step → String
  | [] => ""
  | .key name :: rest => name ++ continued rest
  | .index position :: rest => "[" ++ toString position ++ "]" ++ continued rest
where
  continued : List Step → String
    | [] => ""
    | .key name :: rest => "." ++ name ++ continued rest
    | .index position :: rest => "[" ++ toString position ++ "]" ++ continued rest

end Fault

end ClipRank.Json
