import ClipRank.Toml.Scalar

/-!
TOML documents. Every reader gives what it read and the text that follows, or
nothing if the text is not well formed.
-/

namespace ClipRank.Toml

/-- Blanks within a line. -/
def skipBlanks (text : List Char) : List Char :=
  text.dropWhile fun c => c = ' ' || c = '\t'

/-- Controls other than the tab may not stand in a document. -/
def isControl (c : Char) : Bool :=
  (c.toNat < 0x20 && c != '\t') || c.toNat = 0x7F

/-- What follows a line end, which stands here. -/
def newline? : List Char → Option (List Char)
  | '\n' :: rest => some rest
  | '\r' :: '\n' :: rest => some rest
  | _ => none

/-- Passes over a comment, if one stands here. -/
def skipComment? : List Char → Option (List Char)
  | '#' :: rest =>
    let after := rest.dropWhile fun c => !isControl c
    if after.isEmpty ∨ (newline? after).isSome then some after else none
  | rest => some rest

/-- Passes over blanks and a comment up to the end of the line or of the text. -/
def lineEnd? (text : List Char) : Option (List Char) := do
  let rest ← skipComment? (skipBlanks text)
  if rest.isEmpty then some [] else newline? rest

/-- Passes over blanks, comments and empty lines. -/
def skipLines : Nat → List Char → List Char
  | 0, text => text
  | fuel + 1, text =>
    match skipComment? (skipBlanks text) with
    | none => text
    | some rest =>
      match newline? rest with
      | some rest => skipLines fuel rest
      | none => rest

/-- The character with a scalar value in hex digits. -/
def scalarOfHex? (digits : List Char) : Option Char := do
  let value ← digits.foldlM (fun value c => (radixDigit? 16 c).map (value * 16 + ·)) 0
  if value.isValidChar then some (Char.ofNat value) else none

/-- A character given by so many hex digits at the start of a text. -/
def coded? (count : Nat) (text : List Char) : Option (Char × List Char) :=
  if text.length < count then none else (scalarOfHex? (text.take count)).map (·, text.drop count)

/-- The character after a backslash. -/
def escape? : List Char → Option (Char × List Char)
  | 'b' :: rest => some ('\x08', rest)
  | 't' :: rest => some ('\t', rest)
  | 'n' :: rest => some ('\n', rest)
  | 'f' :: rest => some ('\x0c', rest)
  | 'r' :: rest => some ('\r', rest)
  | 'e' :: rest => some ('\x1b', rest)
  | '"' :: rest => some ('"', rest)
  | '\\' :: rest => some ('\\', rest)
  | 'x' :: rest => coded? 2 rest
  | 'u' :: rest => coded? 4 rest
  | 'U' :: rest => coded? 8 rest
  | _ => none

/-- A string on one line after its opening quote. Escapes have a meaning only between
double quotes. -/
def readLine : Nat → Char → List Char → Option (List Char × List Char)
  | 0, _, _ | _, _, [] => none
  | fuel + 1, quote, c :: rest =>
    if c = quote then some ([], rest)
    else if isControl c then none
    else if c = '\\' ∧ quote = '"' then do
      let (c, rest) ← escape? rest
      let (text, rest) ← readLine fuel quote rest
      return (c :: text, rest)
    else do
      let (text, rest) ← readLine fuel quote rest
      return (c :: text, rest)

/-- A string over several lines after its opening quotes. Three quotes close it, and
up to two more before them belong to it. -/
def readLines : Nat → Char → List Char → Option (List Char × List Char)
  | 0, _, _ | _, _, [] => none
  | fuel + 1, quote, c :: rest =>
    let run := (c :: rest).takeWhile (· = quote)
    if 3 ≤ run.length then
      let count := min run.length 5
      some (List.replicate (count - 3) quote, (c :: rest).drop count)
    else
      match newline? (c :: rest) with
      | some rest => do
        let (text, rest) ← readLines fuel quote rest
        return ('\n' :: text, rest)
      | none =>
        if isControl c then none
        else if c = '\\' ∧ quote = '"' then
          match newline? (skipBlanks rest) with
          | some rest => readLines fuel quote (rest.dropWhile fun c => c = ' ' || c = '\t' || c = '\n' || c = '\r')
          | none => do
            let (c, rest) ← escape? rest
            let (text, rest) ← readLines fuel quote rest
            return (c :: text, rest)
        else do
          let (text, rest) ← readLines fuel quote rest
          return (c :: text, rest)

/-- A string in either kind of quotes. -/
def readString? (quote : Char) (text : List Char) : Option (String × List Char) := do
  let triple := [quote, quote, quote]
  let (body, rest) ←
    if triple.isPrefixOf text then
      let body := text.drop 3
      readLines (text.length + 1) quote ((newline? body).getD body)
    else readLine (text.length + 1) quote (text.drop 1)
  return (String.ofList body, rest)

def isBareKey (c : Char) : Bool :=
  c.isAlphanum || c = '_' || c = '-'

/-- One key: bare, or a string on one line. -/
def readKey? (text : List Char) : Option (String × List Char) :=
  match text with
  | [] => none
  | c :: rest =>
    if c = '"' ∨ c = '\'' then
      (readLine (text.length + 1) c rest).map fun (key, rest) => (String.ofList key, rest)
    else
      let key := text.takeWhile isBareKey
      if key.isEmpty then none else some (String.ofList key, text.dropWhile isBareKey)

/-- How deep values may be nested, and how many keys may be joined. -/
def depthLimit : Nat := 80

/-- At most so many keys, divided by points. -/
def readKeys : Nat → List Char → Option (List String × List Char)
  | 0, _ => none
  | room + 1, text => do
    let (key, rest) ← readKey? (skipBlanks text)
    match skipBlanks rest with
    | '.' :: rest =>
      let (keys, rest) ← readKeys room rest
      return (key :: keys, rest)
    | rest => return ([key], rest)

def readPath (text : List Char) : Option (List String × List Char) :=
  readKeys depthLimit text

/-- The extent of a value without quotes. A blank may divide a date from a time. -/
def bareExtent (text : List Char) : Nat :=
  let isPart (c : Char) : Bool := c.isAlphanum || c = '+' || c = '-' || c = '_' || c = '.' || c = ':'
  let run := text.takeWhile isPart
  match date? run, text.drop run.length with
  | some [], ' ' :: next :: rest =>
    if next.isDigit then run.length + 1 + ((next :: rest).takeWhile isPart).length else run.length
  | _, _ => run.length

mutual

/-- A value at a place with room for so many levels of brackets and braces. -/
def readValue : Nat → Nat → List Char → Option (Value × List Char)
  | 0, _, _ | _, _, [] => none
  | fuel + 1, room, c :: rest =>
    if c = '"' ∨ c = '\'' then
      (readString? c (c :: rest)).map fun (text, rest) => (.string text, rest)
    else if c = '[' ∨ c = '\x7b' then
      match room with
      | 0 => none
      | room + 1 =>
        if c = '[' then (readItems fuel room rest).map fun (items, rest) => (.array items false, rest)
        else (readMembers fuel room [] rest).map fun (members, rest) => (.table .inline members, rest)
    else
      let extent := bareExtent (c :: rest)
      (scalar? ((c :: rest).take extent)).map (·, (c :: rest).drop extent)

/-- The items of an array up to its closing bracket. -/
def readItems : Nat → Nat → List Char → Option (List Value × List Char)
  | 0, _, _ => none
  | fuel + 1, room, text =>
    match skipLines (text.length + 1) text with
    | ']' :: rest => some ([], rest)
    | text => do
      let (item, rest) ← readValue fuel room text
      match skipLines (rest.length + 1) rest with
      | ',' :: rest =>
        let (items, rest) ← readItems fuel room rest
        return (item :: items, rest)
      | ']' :: rest => return ([item], rest)
      | _ => none

/-- The members of a table in braces up to the closing one. They may be spread over
lines. -/
def readMembers : Nat → Nat → Table → List Char → Option (Table × List Char)
  | 0, _, _, _ => none
  | fuel + 1, room, held, text =>
    match skipLines (text.length + 1) text with
    | '\x7d' :: rest => some (held, rest)
    | text => do
      let (path, rest) ← readPath text
      let rest ← expect? '=' (skipLines (rest.length + 1) rest)
      let (value, rest) ← readValue fuel room (skipLines (rest.length + 1) rest)
      let held ← held.define value path
      match skipLines (rest.length + 1) rest with
      | ',' :: rest => readMembers fuel room held rest
      | '\x7d' :: rest => return (held, rest)
      | _ => none

end

/-- A document in the making: its root, and the header under which lines are entered. -/
structure Draft where
  root : Table
  current : List String

/-- Takes in one line. -/
def Draft.readLine? (draft : Draft) (text : List Char) : Option (Draft × List Char) :=
  match skipBlanks text with
  | '[' :: '[' :: rest => do
    let (path, rest) ← readPath rest
    let rest ← lineEnd? (← expect? ']' (← expect? ']' rest))
    return (⟨← draft.root.openItem path, path⟩, rest)
  | '[' :: rest => do
    let (path, rest) ← readPath rest
    let rest ← lineEnd? (← expect? ']' rest)
    return (⟨← draft.root.openTable path, path⟩, rest)
  | text =>
    match lineEnd? text with
    | some rest => some (draft, rest)
    | none => do
      let (path, rest) ← readPath text
      let rest ← expect? '=' rest
      let (value, rest) ← readValue (rest.length + 1) depthLimit (skipBlanks rest)
      let rest ← lineEnd? rest
      return (⟨← draft.root.update (·.define value path) draft.current, draft.current⟩, rest)

def readDraft : Nat → Draft → List Char → Option Draft
  | 0, _, _ => none
  | _, draft, [] => some draft
  | fuel + 1, draft, text => do
    let (draft, rest) ← draft.readLine? text
    readDraft fuel draft rest

/-- The root table of a document. A byte order mark may come first. -/
def read? (text : String) : Option Table :=
  let text := match text.toList with
    | '\uFEFF' :: rest => rest
    | text => text
  (readDraft (text.length + 1) ⟨[], []⟩ text).map (·.root)

end ClipRank.Toml
