import ClipRank.Text.Blank
import ClipRank.Text.CaseTable

/-!
The full Unicode lowercase of a text. Two characters need more than the table: a
dotted capital I becomes two characters, and a capital sigma is final at the end
of a word.
-/

namespace ClipRank.Text

def lowercaseChar (c : Char) : Char :=
  if c.toNat < 0x80 then c.toLower
  else
    match lowercaseRuns.find? (fun run =>
      run.first ≤ c.toNat && c.toNat ≤ run.last && (c.toNat - run.first) % run.step = 0) with
    | some run => Char.ofNat (c.toNat + run.offset).toNat
    | none => c

/-- Whether the nearest character that is not case-ignorable is cased. -/
def meetsCased (text : List Char) : Bool :=
  match text.dropWhile (inRanges caseIgnorableRanges) with
  | [] => false
  | c :: _ => inRanges casedRanges c

/-- The lowercase of one character between the text before it, nearest first, and
the text after it. -/
def lowercaseAt (before : List Char) (c : Char) (after : List Char) : List Char :=
  if c = 'Σ' then [if meetsCased before && !meetsCased after then 'ς' else 'σ']
  else if c = 'İ' then ['i', '\u0307']
  else [lowercaseChar c]

def lowercaseChars (before : List Char) : List Char → List Char
  | [] => []
  | c :: rest => lowercaseAt before c rest ++ lowercaseChars (c :: before) rest

def lowercase (text : String) : String :=
  String.ofList (lowercaseChars [] text.toList)

end ClipRank.Text
