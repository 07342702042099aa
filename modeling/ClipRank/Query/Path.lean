import ClipRank.Json.Basic
import ClipRank.Text.Blank

/-!
Field paths over the JSON view of a record. A path is a list of keys divided by
points. Short names stand for some paths, and a single key that is no field of
the record is looked up in its metadata.
-/

namespace ClipRank.Path

/-- The short names and the paths for which they stand. -/
def aliases : List (String × String) := [
  ("videoId", "id"),
  ("views", "rawMetrics.views"),
  ("likes", "rawMetrics.likes"),
  ("comments", "rawMetrics.comments"),
  ("days", "rawMetrics.ageDays"),
  ("ageDays", "rawMetrics.ageDays"),
  ("duration", "rawMetrics.durationSeconds"),
  ("durationSeconds", "rawMetrics.durationSeconds"),
  ("score", "compositeScore"),
  ("rates.viewsPerMinuteOfContent", "rates.viewsPerMinute")]

/-- What follows a given beginning of a text. -/
def dropStart? (start text : List Char) : Option (List Char) :=
  if start.isPrefixOf text then some (text.drop start.length) else none

/-- The text without a given ending, if it has it. -/
def dropEnd (ending text : List Char) : List Char :=
  if ending.isSuffixOf text then text.take (text.length - ending.length) else text

/-- The name of a component in the two forms in which components are addressed. -/
def componentName? (path : List Char) : Option (List Char) :=
  let rest := (dropStart? "scoreComponents.".toList path).or (dropStart? "components.".toList path)
  rest.map fun name =>
    let name := dropEnd "Score".toList name
    if name = "views".toList then "reach".toList else name

/-- The path in the view of a record that a given path stands for. -/
def canonical (path : String) : String :=
  let path := Text.trim path
  match aliases.find? (·.1 = path) with
  | some (_, target) => target
  | none =>
    match componentName? path.toList with
    | some name => String.ofList ("components.".toList ++ name)
    | none => path

/-- The keys of a path. There is always one, which can be empty. -/
def split : List Char → List (List Char)
  | [] => [[]]
  | c :: rest =>
    if c = '.' then [] :: split rest
    else
      match split rest with
      | [] => [[c]]
      | key :: keys => (c :: key) :: keys

def keys (path : String) : List String :=
  (split path.toList).map String.ofList

/-- Follows keys through nested objects. -/
def walk? (root : Json) (keys : List String) : Option Json :=
  keys.foldlM (fun value key => value.get? key) root

/-- The value at a path, if there is one. -/
def resolve? (root : Json) (path : String) : Option Json :=
  let target := canonical path
  if target = "" then none
  else
    match walk? root (keys target) with
    | some value => some value
    | none =>
      if target.toList.contains '.' then none
      else (root.get? "metadata").bind fun metadata => walk? metadata (keys target)

end ClipRank.Path
