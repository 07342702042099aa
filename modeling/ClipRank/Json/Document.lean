import ClipRank.Json.Numeral

/-!
JSON text as a tree. The grammar is checked for all of a text, but the limits on
values are left to whoever reads them: a number out of range and a string with
half of a surrogate pair are marked in place, and nesting has no limit here. Text
that breaks the grammar ends the tree at that point, so that what stands before
the break can still be read.
-/

namespace ClipRank.Json

inductive Document where
  | null
  | boolean (value : Bool)
  /-- A number, without a value if it is out of range. -/
  | number (value : Option Number)
  /-- A string, without a value if it has half of a surrogate pair. -/
  | string (value : Option String)
  | array (items : List Document) (closed : Bool)
  | object (members : List (Option String × Document)) (closed : Bool)
  /-- No value can be read here. -/
  | broken

namespace Document

mutual

/-- The tree of a value. -/
def ofJson : Json → Document
  | .null => .null
  | .boolean value => .boolean value
  | .number value => .number (some value)
  | .string value => .string (some value)
  | .array items => .array (ofItems items) true
  | .object members => .object (ofMembers members) true

def ofItems : List Json → List Document
  | [] => []
  | item :: rest => ofJson item :: ofItems rest

def ofMembers : List (String × Json) → List (Option String × Document)
  | [] => []
  | (key, value) :: rest => (some key, ofJson value) :: ofMembers rest

end

mutual

/-- Whether the grammar holds throughout. -/
def intact : Document → Bool
  | .array items closed => intactItems items && closed
  | .object members closed => intactMembers members && closed
  | .broken => false
  | _ => true

def intactItems : List Document → Bool
  | [] => true
  | item :: rest => intact item && intactItems rest

def intactMembers : List (Option String × Document) → Bool
  | [] => true
  | (_, value) :: rest => intact value && intactMembers rest

end

end Document

def isSpace (c : Char) : Bool :=
  c = ' ' || c = '\n' || c = '\t' || c = '\r'

def skipSpace (text : List Char) : List Char :=
  text.dropWhile isSpace

/-- One element of a string body: a character, or a 16-bit unit written in hex. -/
inductive Piece where
  | plain (c : Char)
  | unit (code : Nat)

def hexValue? (c : Char) : Option Nat :=
  if c.isDigit then some (c.toNat - '0'.toNat)
  else if 'a' ≤ c ∧ c ≤ 'f' then some (c.toNat - 'a'.toNat + 10)
  else if 'A' ≤ c ∧ c ≤ 'F' then some (c.toNat - 'A'.toNat + 10)
  else none

def hexUnit? (a b c d : Char) : Option Nat := do
  let a ← hexValue? a
  let b ← hexValue? b
  let c ← hexValue? c
  let d ← hexValue? d
  return ((a * 16 + b) * 16 + c) * 16 + d

/-- The character that a backslash and a letter stand for. -/
def escaped? (c : Char) : Option Char :=
  if c = '"' ∨ c = '\\' ∨ c = '/' then some c
  else if c = 'b' then some '\x08'
  else if c = 'f' then some '\x0c'
  else if c = 'n' then some '\n'
  else if c = 'r' then some '\r'
  else if c = 't' then some '\t'
  else none

/-- A string body up to its closing quote, and what follows. -/
def readPieces? : List Char → Option (List Piece × List Char)
  | [] => none
  | '"' :: rest => some ([], rest)
  | '\\' :: 'u' :: a :: b :: c :: d :: rest =>
    match hexUnit? a b c d with
    | none => none
    | some code => (readPieces? rest).map fun (pieces, rest) => (.unit code :: pieces, rest)
  | '\\' :: c :: rest =>
    match escaped? c with
    | none => none
    | some c => (readPieces? rest).map fun (pieces, rest) => (.plain c :: pieces, rest)
  | c :: rest =>
    if c.toNat < 0x20 ∨ c = '\\' then none
    else (readPieces? rest).map fun (pieces, rest) => (.plain c :: pieces, rest)

/-- The text of a string body. A high unit has to be followed by a low one, and a
low unit has to follow a high one. -/
def joinPieces? : List Piece → Option (List Char)
  | [] => some []
  | .plain c :: rest => (joinPieces? rest).map (c :: ·)
  | .unit high :: .unit low :: rest =>
    if 0xD800 ≤ high ∧ high < 0xDC00 then
      if 0xDC00 ≤ low ∧ low < 0xE000 then
        (joinPieces? rest).map (Char.ofNat (0x10000 + (high - 0xD800) * 0x400 + (low - 0xDC00)) :: ·)
      else none
    else if 0xDC00 ≤ high ∧ high < 0xE000 then none
    else (joinPieces? (.unit low :: rest)).map (Char.ofNat high :: ·)
  | .unit code :: rest =>
    if 0xD800 ≤ code ∧ code < 0xE000 then none
    else (joinPieces? rest).map (Char.ofNat code :: ·)

/-- A string after its opening quote: its text if it has one, and what follows. -/
def readString? (text : List Char) : Option (Option String × List Char) :=
  (readPieces? text).map fun (pieces, rest) => ((joinPieces? pieces).map String.ofList, rest)

/-- A word at the start of a text. -/
def readWord (word : List Char) (document : Document) (text : List Char) : Document × Option (List Char) :=
  if word.isPrefixOf text then (document, some (text.drop word.length)) else (.broken, none)

mutual

/-- The value at the start of a text, and what follows it, unless the text breaks
off within. -/
def readValue : Nat → List Char → Document × Option (List Char)
  | 0, _ => (.broken, none)
  | fuel + 1, text =>
    match skipSpace text with
    | [] => (.broken, none)
    | c :: rest =>
      if c = '\x7b' then
        match skipSpace rest with
        | [] => (.object [] false, none)
        | next :: after =>
          if next = '\x7d' then (.object [] true, some after)
          else
            let (members, rest) := readMembers fuel (next :: after)
            (.object members rest.isSome, rest)
      else if c = '[' then
        match skipSpace rest with
        | [] => (.array [] false, none)
        | next :: after =>
          if next = ']' then (.array [] true, some after)
          else
            let (items, rest) := readItems fuel (next :: after)
            (.array items rest.isSome, rest)
      else if c = '"' then
        match readString? rest with
        | none => (.broken, none)
        | some (value, rest) => (.string value, some rest)
      else if c = 'n' then readWord "null".toList .null (c :: rest)
      else if c = 't' then readWord "true".toList (.boolean true) (c :: rest)
      else if c = 'f' then readWord "false".toList (.boolean false) (c :: rest)
      else
        match readNumeral? (c :: rest) with
        | none => (.broken, none)
        | some (numeral, rest) => (.number numeral.value?, some rest)

/-- The items of an array up to its closing bracket. -/
def readItems : Nat → List Char → List Document × Option (List Char)
  | 0, _ => ([.broken], none)
  | fuel + 1, text =>
    match readValue fuel text with
    | (item, none) => ([item], none)
    | (item, some rest) =>
      match skipSpace rest with
      | ',' :: rest =>
        let (items, rest) := readItems fuel rest
        (item :: items, rest)
      | ']' :: rest => ([item], some rest)
      | _ => ([item], none)

/-- The members of an object up to its closing brace. -/
def readMembers : Nat → List Char → List (Option String × Document) × Option (List Char)
  | 0, _ => ([], none)
  | fuel + 1, text =>
    match skipSpace text with
    | '"' :: rest =>
      match readString? rest with
      | none => ([], none)
      | some (key, rest) =>
        match skipSpace rest with
        | ':' :: rest =>
          match readValue fuel rest with
          | (value, none) => ([(key, value)], none)
          | (value, some rest) =>
            match skipSpace rest with
            | ',' :: rest =>
              let (members, rest) := readMembers fuel rest
              ((key, value) :: members, rest)
            | next :: rest => ([(key, value)], if next = '\x7d' then some rest else none)
            | [] => ([(key, value)], none)
        | _ => ([(key, .broken)], none)
    | _ => ([], none)

end

namespace Document

/-- The value at the start of a text, and what follows it. Every level of nesting
takes a character and two steps, so the steps suffice. -/
def readStart (text : List Char) : Document × Option (List Char) :=
  readValue (2 * text.length + 2) text

/-- A whole text: the tree of its value, and whether only blanks follow. -/
def read (text : String) : Document × Bool :=
  let (document, rest) := readStart text.toList
  (document, rest.any fun rest => (skipSpace rest).isEmpty)

end Document

end ClipRank.Json
