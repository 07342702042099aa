import ClipRank.Text.Blank
import ClipRank.Text.VisibleTable

/-!
Text between quotes, as error messages show it.
-/

namespace ClipRank.Text

/-- A character with no visible form is written as its scalar value. -/
def escapeChar (c : Char) : List Char :=
  if c = '\x00' then ['\\', '0']
  else if c = '\t' then ['\\', 't']
  else if c = '\n' then ['\\', 'n']
  else if c = '\r' then ['\\', 'r']
  else if c = '"' || c = '\\' then ['\\', c]
  else if inRanges visibleRanges c then [c]
  else ['\\', 'u', '\x7b'] ++ Nat.toDigits 16 c.toNat ++ ['\x7d']

def quoted (text : String) : String :=
  String.ofList ('"' :: text.toList.flatMap escapeChar ++ ['"'])

end ClipRank.Text
