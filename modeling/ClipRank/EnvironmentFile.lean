import ClipRank.Files
import ClipRank.Text.Blank
import ClipRank.Text.Letter

/-!
Environment variables from a text of assignments. A quoted value may run over
several lines, a number sign after a blank starts a comment, and outside of single
quotes a dollar sign stands before the name of a variable. The first line that is
none of this ends the reading, and what stood before it holds.
-/

namespace ClipRank.EnvironmentFile

/-- What the characters read so far leave open. -/
inductive Quoting where
  | plain
  | blank
  | escaped
  | single
  | singleEscaped
  | double
  | doubleEscaped
deriving Repr, DecidableEq

namespace Quoting

def unquoted (c : Char) : Quoting :=
  if c = '\\' then escaped else if c = '"' then double else if c = '\'' then single else plain

def next : Quoting → Char → Quoting
  | plain, c => if Text.isBlank c ∧ c ≠ '\n' ∧ c ≠ '\r' then blank else unquoted c
  | blank, c => unquoted c
  | escaped, _ => plain
  | single, c => if c = '\\' then singleEscaped else if c = '\'' then plain else single
  | singleEscaped, _ => single
  | double, c => if c = '\\' then doubleEscaped else if c = '"' then plain else double
  | doubleEscaped, _ => double

end Quoting

/-- The part of a line before a comment, whether a comment cut it, and what it leaves
open. -/
def scan (quoting : Quoting) : List Char → List Char × Bool × Quoting
  | [] => ([], false, quoting)
  | c :: rest =>
    if quoting = .blank ∧ c = '#' then ([], true, .plain)
    else
      let (part, cut, open_) := scan (quoting.next c) rest
      (c :: part, cut, open_)

/-- The lines of a text, each with the break that ends it. -/
def physicalLines : List Char → List (List Char)
  | [] => []
  | c :: rest =>
    if c = '\n' then [c] :: physicalLines rest
    else
      match physicalLines rest with
      | [] => [[c]]
      | line :: lines => (c :: line) :: lines

/-- Takes away the break at the end of a line. -/
def withoutBreak (line : List Char) : List Char :=
  match line.reverse with
  | '\n' :: '\r' :: rest => rest.reverse
  | '\n' :: rest => rest.reverse
  | _ => line

/-- Joins lines as long as a quotation is open. An end that leaves one open is nothing. -/
def logicalLines (held : List Char) (quoting : Quoting) : List (List Char) → List (Option (List Char))
  | [] => if quoting = .plain then [] else [none]
  | line :: rest =>
    if (Text.trimStart (held ++ line)).head? = some '#' then logicalLines [] .plain rest
    else
      let (part, cut, quoting) := scan quoting line
      if cut then some (held ++ part) :: logicalLines [] .plain rest
      else if quoting = .plain then some (withoutBreak (held ++ line)) :: logicalLines [] .plain rest
      else logicalLines (held ++ line) quoting rest

/-- Where the name of a variable is being read. -/
inductive Naming where
  | no
  | bare
  | braced
deriving Repr, DecidableEq

structure Reading where
  output : List Char
  single : Bool
  double : Bool
  escaped : Bool
  naming : Naming
  name : List Char

namespace Reading

def start : Reading :=
  ⟨[], false, false, false, .no, []⟩

def push (reading : Reading) (c : Char) : Reading :=
  { reading with output := reading.output ++ [c] }

/-- Puts the value of the variable in the place of its name. -/
def substitute (reading : Reading) (environment : Environment) : Reading :=
  { reading with
    output := reading.output ++ ((environment (String.ofList reading.name)).getD "").toList
    naming := .no
    name := [] }

/-- Takes in one character of a value. -/
def step (environment : Environment) (reading : Reading) (c : Char) : Option Reading :=
  if reading.escaped then
    if "\\'\"$ ".toList.contains c then some { reading.push c with escaped := false }
    else if c = 'n' then some { reading.push '\n' with escaped := false }
    else none
  else if reading.single then
    some (if c = '\'' then { reading with single := false } else reading.push c)
  else
    match reading.naming with
    | .bare =>
      some <|
        if Text.isLetterOrNumber c then { reading with name := reading.name ++ [c] }
        else if c = '\x7b' ∧ reading.name = [] then { reading with naming := .braced }
        else if c = '$' then { reading.substitute environment with naming := .bare }
        else (reading.substitute environment).push c
    | .braced =>
      some <|
        if c = '\x7d' then reading.substitute environment
        else { reading with name := reading.name ++ [c] }
    | .no =>
      some <|
        if c = '$' then { reading with naming := .bare }
        else if c = '\\' then { reading with escaped := true }
        else if c = '"' then { reading with double := !reading.double }
        else if c = '\'' ∧ !reading.double then { reading with single := true }
        else reading.push c

/-- Whether a blank would end the value here. -/
def isBare (reading : Reading) : Bool :=
  !reading.escaped && !reading.single && !reading.double && reading.naming = .no

def finish (reading : Reading) (environment : Environment) : Option String :=
  if reading.naming = .braced ∨ reading.single ∨ reading.double then none
  else some (String.ofList (reading.substitute environment).output)

end Reading

/-- Whether nothing but blanks and a comment follows. -/
def isRemark (text : List Char) : Bool :=
  let rest := text.dropWhile fun c => c = ' ' || c = '\t'
  rest.isEmpty || rest.head? = some '#'

def value? (environment : Environment) (reading : Reading) : List Char → Option String
  | [] => reading.finish environment
  | c :: rest =>
    if reading.isBare ∧ (c = ' ' ∨ c = '\t') then
      if isRemark rest then reading.finish environment else none
    else do value? environment (← reading.step environment c) rest

/-- The name that a text begins with, and the rest without the blanks before it. -/
def name? (text : List Char) : Option (List Char × List Char) :=
  let isPart (c : Char) : Bool := c.isAlphanum || c = '_' || c = '.'
  match text with
  | c :: _ =>
    if c.isAlpha || c = '_' then some (text.takeWhile isPart, Text.trimStart (text.dropWhile isPart))
    else none
  | [] => none

/-- The name that is given a value, and what stands behind the equals sign. -/
def target? (text : List Char) : Option (List Char × List Char) := do
  match ← name? text with
  | (name, '=' :: rest) => return (name, rest)
  | (word, rest) =>
    if word = "export".toList then
      match ← name? rest with
      | (name, '=' :: rest) => return (name, rest)
      | _ => none
    else none

/-- The assignment of a line, if the line is one or empty. -/
def assignment? (environment : Environment) (line : List Char) : Option (Option (String × String)) :=
  let text := Text.trimStart (Text.trimEnd line)
  if text.isEmpty ∨ text.head? = some '#' then some none
  else do
    let (name, rest) ← target? text
    let rest := Text.trimStart rest
    let value ← if rest.isEmpty ∨ rest.head? = some '#' then some "" else value? environment .start rest
    return some (String.ofList name, value)

/-- The environment with a variable set, unless it was set before. -/
def define (environment : Environment) (name value : String) : Environment :=
  if (environment name).isSome then environment
  else fun other => if other = name then some value else environment other

def loadLines (environment : Environment) : List (Option (List Char)) → Environment
  | [] => environment
  | none :: _ => environment
  | some line :: rest =>
    match assignment? environment line with
    | none => environment
    | some none => loadLines environment rest
    | some (some (name, value)) => loadLines (define environment name value) rest

/-- The environment with the assignments of a text added to it. -/
def load (environment : Environment) (text : String) : Environment :=
  let characters := match text.toList with
    | '\uFEFF' :: rest => rest
    | characters => characters
  loadLines environment (logicalLines [] .plain (physicalLines characters))

end ClipRank.EnvironmentFile
