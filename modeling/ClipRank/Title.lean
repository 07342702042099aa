import ClipRank.Text.Entity
import ClipRank.Text.Blank

/-!
Titles as they are shown: references decoded, runs of blanks reduced to one
space, and none at the ends.
-/

namespace ClipRank.Title

def normalize (title : String) : String :=
  let decoded := Text.Entity.decode title.toList
  String.ofList (Text.trimEnd (Text.trimStart (Text.collapse decoded)))

end ClipRank.Title
