import ClipRank.Query.Span
import ClipRank.Query.Grammar
import ClipRank.Query.Result

/-!
Queries in free text. The text is the reply of a language model, which may put
prose around the object it was asked for.
-/

namespace ClipRank

/-- Why a text gives no query. -/
inductive Rejection where
  | noObject
  | grammar (fault : GrammarFault)

namespace Rejection

def message : Rejection → String
  | noObject => "no JSON object found in translator output"
  | grammar fault => "invalid query: " ++ fault.message

/-- A short name of the kind of rejection. -/
def kind : Rejection → String
  | noObject => "extraction"
  | grammar _ => "schema"

end Rejection

namespace Query

open Json (Decoder Document)

/-- An object, or nothing for any other value. -/
def object? : Except Json.Fault Json → Option Json
  | .ok (.object members) => some (.object members)
  | _ => none

/-- The object that a span is, if it is one as a whole. -/
def objectOfSpan? (span : Span) : Option Json :=
  object? (Decoder.ofText Decoder.json (String.ofList span.body))

/-- The object that a text begins with, if it begins with one. -/
def objectAtStart? (text : List Char) : Option Json :=
  object? (Decoder.json (.text 128) (Document.readStart text).1)

/-- The ends of a text from each of its opening braces on. -/
def braceSuffixes : List Char → List (List Char)
  | [] => []
  | c :: rest => if c = '\x7b' then (c :: rest) :: braceSuffixes rest else braceSuffixes rest

/-- The first JSON object in a text. The spans come first. A stray brace in the
prose can hide the object from them, so each brace is tried after that. -/
def findObject? (text : String) : Option Json :=
  match (Span.ofText text.toList).findSome? objectOfSpan? with
  | some value => some value
  | none => (braceSuffixes text.toList).findSome? objectAtStart?

def ofText (text : String) : Except Rejection Query :=
  match findObject? text with
  | none => .error .noObject
  | some value => (ofJson value).mapError .grammar

/-- Runs the query that a text gives. -/
def runText (records : List (ScoredRecord Float)) (text : String) : Except Rejection QueryResult :=
  (ofText text).map (execute records)

end Query

end ClipRank
