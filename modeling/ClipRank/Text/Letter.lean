import ClipRank.Text.Blank
import ClipRank.Text.LetterTable

/-!
The characters of words.
-/

namespace ClipRank.Text

/-- Whether a character is a letter or a number of some script. -/
def isLetterOrNumber (c : Char) : Bool :=
  inRanges letterRanges c

end ClipRank.Text
