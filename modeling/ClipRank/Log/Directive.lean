import ClipRank.Binary64.Numeral
import ClipRank.Json.Basic
import ClipRank.Log.Pattern
import ClipRank.Text.Blank
import ClipRank.Text.Letter

/-!
Events of the log, and the directives by which a user picks some of them: a target,
a span, a field and a threshold, each of which but one may be left out.
-/

namespace ClipRank

inductive LogLevel where
  | error
  | warn
  | info
  | debug
  | trace
deriving Repr, DecidableEq

namespace LogLevel

def all : List LogLevel := [error, warn, info, debug, trace]

def name : LogLevel → String
  | error => "ERROR"
  | warn => "WARN"
  | info => "INFO"
  | debug => "DEBUG"
  | trace => "TRACE"

/-- How many levels a threshold lets through. -/
def rank : LogLevel → Nat
  | error => 1
  | warn => 2
  | info => 3
  | debug => 4
  | trace => 5

/-- A number of levels in digits, with a plus sign at most. -/
def count? (word : List Char) : Option Nat :=
  let digits := if word.head? = some '+' then word.drop 1 else word
  if digits ≠ [] ∧ digits.all Char.isDigit ∧ Binary64.digitsValue digits ≤ 5 then
    some (Binary64.digitsValue digits)
  else none

/-- The threshold that a word or a number stands for. -/
def threshold? (word : List Char) : Option Nat :=
  let lower := String.ofList (word.map Char.toLower)
  if lower = "off" then some 0
  else
    match all.find? fun level => level.name.map Char.toLower = lower with
    | some level => some level.rank
    | none => count? word

end LogLevel

structure LogEvent where
  level : LogLevel
  /-- The part of the program that speaks. -/
  target : String
  fields : Members

/-- Lets events through up to a threshold: those of the targets that begin with a text,
if they have a field. -/
structure LogDirective where
  target : String
  field : Option String
  /-- Whether it holds only inside of spans, by their name or by the value of a field. -/
  spansOnly : Bool
  threshold : Nat
deriving Repr, DecidableEq

namespace LogDirective

/-- Whether an event is one that a directive speaks of. -/
def covers (directive : LogDirective) (event : LogEvent) : Bool :=
  directive.target.toList.isPrefixOf event.target.toList &&
    directive.field.all fun name => event.fields.any (·.1 = name)

/-- Whether a directive gives way to another one that covers the same event: the longer
target decides, then a field, and of two fields the later name. -/
def yields (directive other : LogDirective) : Bool :=
  if directive.target.utf8ByteSize ≠ other.target.utf8ByteSize then
    directive.target.utf8ByteSize < other.target.utf8ByteSize
  else
    match directive.field, other.field with
    | none, _ => true
    | some _, none => false
    | some name, some later => name ≤ later

/-- The text of a directive. Places are counted from its first character that is no
blank, but parts are cut from the whole. -/
structure Source where
  whole : List Char
  trimmed : List Char

namespace Source

def ofString (text : String) : Source :=
  ⟨text.toList, Text.trimEnd (Text.trimStart text.toList)⟩

def cut (source : Source) (first last : Nat) : String :=
  String.ofList ((source.whole.drop first).take (last - first))

/-- The first place from some place on with one of some characters, and that character. -/
def seek? (source : Source) (place : Nat) (marks : List Char) : Option (Nat × Char) :=
  let skipped := (source.trimmed.drop place).takeWhile (!marks.contains ·)
  source.trimmed[place + skipped.length]?.map (place + skipped.length, ·)

/-- The threshold from a place to the end. Without any text every level passes. -/
def threshold? (source : Source) (place : Nat) : Option Nat :=
  match source.whole.drop place with
  | [] => some LogLevel.trace.rank
  | word => LogLevel.threshold? word

/-- The threshold behind a closing bracket. -/
def afterBracket? (source : Source) (place : Nat) : Option Nat :=
  match source.trimmed[place]? with
  | none => some LogLevel.trace.rank
  | some c => if c = '=' then source.threshold? (place + 1) else none

/-- The name of a field, and whether it is asked for its value too. The value is a number
or a pattern. -/
def field? (content : String) : Option (String × Bool) :=
  match content.splitToList (· = '=') with
  | [] => none
  | [name] => if name = "" then none else some (name, false)
  | name :: value :: _ =>
    if (Binary64.read? value).isSome ∨ LogPattern.isWellFormed value.toList then some (name, true) else none

/-- The part in brackets, from behind the opening one, and what follows it. -/
def brackets? (source : Source) (target : String) (place : Nat) : Option LogDirective := do
  let (close, mark) ← source.seek? place [']', '\x7b']
  if mark = ']' then
    return ⟨target, none, true, ← source.afterBracket? (close + 1)⟩
  else
    let (brace, _) ← source.seek? (close + 1) ['\x7d']
    let (name, hasValue) ← field? (source.cut (close + 1) brace)
    guard (source.trimmed[brace + 1]? = some ']')
    return ⟨target, some name, source.cut place close ≠ "" || hasValue, ← source.afterBracket? (brace + 2)⟩

end Source

/-- A word alone is a threshold, or else a target of which everything passes. -/
def ofWord (word : List Char) : LogDirective :=
  match LogLevel.threshold? word with
  | some threshold => ⟨"", none, false, threshold⟩
  | none => ⟨String.ofList word, none, false, LogLevel.trace.rank⟩

def parse? (text : String) : Option LogDirective :=
  let source := Source.ofString text
  match source.trimmed with
  | [] => none
  | c :: _ =>
    if c = '[' then source.brackets? "" 1
    else if !(Text.isLetterOrNumber c || "-:_".toList.contains c) then none
    else
      match source.seek? 0 ['=', '['] with
      | none => some (ofWord source.whole)
      | some (place, mark) =>
        let target := source.cut 0 place
        if mark = '[' then source.brackets? target (place + 1)
        else (source.threshold? (place + 1)).map (⟨target, none, false, ·⟩)

end LogDirective

end ClipRank
