import ClipRank.Text.EntityTable

/-!
HTML character references. One pass: a reference has to end in a semicolon, what
it stands for is not read again, and a text that is no reference is kept.
-/

namespace ClipRank.Text.Entity

def hexValue (digits : List Char) : Nat :=
  digits.foldl (fun value digit => value * 16 + digitValue digit) 0
where
  digitValue (c : Char) : Nat :=
    if c.isDigit then c.toNat - '0'.toNat
    else if 'a' ≤ c then c.toNat - 'a'.toNat + 10
    else c.toNat - 'A'.toNat + 10

def isHexDigit (c : Char) : Bool :=
  c.isDigit || ('a' ≤ c && c ≤ 'f') || ('A' ≤ c && c ≤ 'F')

/-- The character with a scalar value, if there is one. Of those below the space only
the tab, the line feed, the form feed and the carriage return have one here. -/
def scalar? (value : Nat) : Option Char :=
  if value.isValidChar ∧ (0x20 ≤ value ∨ [0x9, 0xA, 0xC, 0xD].contains value) then some (Char.ofNat value)
  else none

/-- The character for what stands between `&` and `;`. -/
def character? : List Char → Option Char
  | '#' :: mark :: digits =>
    if mark = 'x' ∨ mark = 'X' then
      if digits ≠ [] ∧ digits.all isHexDigit then scalar? (hexValue digits) else none
    else if (mark :: digits).all Char.isDigit then
      scalar? ((mark :: digits).foldl (fun value digit => value * 10 + (digit.toNat - '0'.toNat)) 0)
    else none
  | body => ((names.find? (·.1 = String.ofList body)).map (·.2)).bind scalar?

/-- The reference after an `&`, and its length with the semicolon. -/
def reference? (text : List Char) : Option (Char × Nat) :=
  let body := text.takeWhile fun c => c.isAlphanum || c = '#'
  if text[body.length]? = some ';' then (character? body).map (·, body.length + 1) else none

/-- Decodes a text whose first `skip` characters belong to a reference already
decoded. -/
def decodeFrom : Nat → List Char → List Char
  | _, [] => []
  | skip + 1, _ :: rest => decodeFrom skip rest
  | 0, c :: rest =>
    if c = '&' then
      match reference? rest with
      | some (character, length) => character :: decodeFrom length rest
      | none => c :: decodeFrom 0 rest
    else c :: decodeFrom 0 rest

def decode (text : List Char) : List Char :=
  decodeFrom 0 text

end ClipRank.Text.Entity
