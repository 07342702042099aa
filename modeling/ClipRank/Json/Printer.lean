import ClipRank.Json.Basic
import ClipRank.Binary64.Shortest

/-!
The compact text of a JSON value. A string escapes the quote, the backslash and
the controls below the space, and nothing else. A double has the shortest digits
that read back, and always a point or an exponent.
-/

namespace ClipRank.Json

/-- Doubles are spelled positionally from `1e-5` up to `1e16`. -/
def floatLayout : Binary64.Layout := ⟨-5, 16⟩

def hexDigit (value : Nat) : Char :=
  if value < 10 then Char.ofNat ('0'.toNat + value) else Char.ofNat ('a'.toNat + (value - 10))

def escape (c : Char) : List Char :=
  if c = '"' then ['\\', '"']
  else if c = '\\' then ['\\', '\\']
  else if c = '\x08' then ['\\', 'b']
  else if c = '\x0c' then ['\\', 'f']
  else if c = '\n' then ['\\', 'n']
  else if c = '\r' then ['\\', 'r']
  else if c = '\t' then ['\\', 't']
  else if c.toNat < 0x20 then ['\\', 'u', '0', '0', hexDigit (c.toNat / 16), hexDigit (c.toNat % 16)]
  else [c]

def printString (text : String) : List Char :=
  '"' :: text.toList.flatMap escape ++ ['"']

def printNumber : Number → List Char
  | .unsigned value => Nat.toDigits 10 value.toNat
  | .negative magnitude => '-' :: Nat.toDigits 10 magnitude.toNat
  | .real value => if value.isFinite then (floatLayout.spell value).toList else "null".toList

mutual

def printChars : Json → List Char
  | null => "null".toList
  | boolean value => if value then "true".toList else "false".toList
  | number value => printNumber value
  | string value => printString value
  | array items => '[' :: printItems items ++ [']']
  | object members => '\x7b' :: printMembers members ++ ['\x7d']

def printItems : List Json → List Char
  | [] => []
  | [item] => printChars item
  | item :: rest => printChars item ++ ',' :: printItems rest

def printMembers : List (String × Json) → List Char
  | [] => []
  | [(key, value)] => printString key ++ ':' :: printChars value
  | (key, value) :: rest => printString key ++ ':' :: (printChars value ++ ',' :: printMembers rest)

end

def print (value : Json) : String :=
  String.ofList (printChars value)

end ClipRank.Json
