import ClipRank.CommandLine
import Std.Time.DateTime.Timestamp

/-!
The command on real files and the real clock.
-/

namespace ClipRank.CommandLine

def faultOf : IO.Error → FileFault
  | .noFileOrDirectory .. => .notFound
  | .permissionDenied .. => .denied
  | .inappropriateType _ code _ => if code = 20 then .notADirectory else .isADirectory
  | .invalidArgument _ code _ => if code = 36 then .nameTooLong else .notText
  | _ => .notText

/-- The files at some paths, as they are now. -/
def readAll (paths : List String) : IO FileSystem := do
  let contents ← paths.mapM fun (path : String) => do
    match ← EIO.toBaseIO (IO.FS.readFile path) with
    | .ok text => return (path, Except.ok text)
    | .error fault => return (path, .error (faultOf fault))
  return fun path => (contents.lookup path).getD (.error .notFound)

def now : IO Timestamp := do
  let seconds := (← Std.Time.Timestamp.now).toSecondsSinceUnixEpoch.val
  return ⟨seconds / 86400, (seconds % 86400).toNat, 0⟩

end ClipRank.CommandLine

open ClipRank in
def main (arguments : List String) : IO UInt32 := do
  let files ← CommandLine.readAll (arguments.take 1 ++ [defaultWeightsPath])
  match Metered.value (CommandLine.run files (← CommandLine.now) arguments).run with
  | some (.ok lines) =>
    lines.forM IO.println
    return .ofNat 0
  | some (.error failure) =>
    failure.report.forM IO.eprintln
    return .ofNat 1
  | none =>
    IO.eprintln "attempt to add with overflow"
    return .ofNat 101
