import ClipRank.Failure
import ClipRank.Metered
import ClipRank.VideoRecord.Json

/-!
Records from a file.
-/

namespace ClipRank.RecordsFile

open Json (Decoder)

/-- The records in a file as they are delivered. -/
def read (files : FileSystem) (path : String) : Outcome (List VideoRecord) :=
  match files path with
  | .error fault => .fail (.readingRecords path) (.file fault)
  | .ok text =>
    match Decoder.ofText (Decoder.list VideoRecord.decoder) text with
    | .error fault => .fail (.parsingRecords path) (.json fault)
    | .ok records => .ok records

/-- The records of a file that are kept. -/
def load (files : FileSystem) (path : String) : Metered (Outcome (List VideoRecord)) :=
  match read files path with
  | .error failure => return .error failure
  | .ok records => do return .ok (← Metered.intake records).kept

end ClipRank.RecordsFile
