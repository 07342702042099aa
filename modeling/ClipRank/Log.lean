import ClipRank.Files
import ClipRank.Log.Directive

/-!
What the server writes about itself, and which of it the user wants to see.
-/

namespace ClipRank

/-- Directives in the order in which they were given. -/
structure LogFilter where
  directives : List LogDirective

namespace LogFilter

/-- The name under which the server speaks. -/
def server : String := "video_score_engine"

def standard : LogFilter :=
  ⟨[⟨server, none, false, LogLevel.info.rank⟩, ⟨"", none, false, LogLevel.warn.rank⟩]⟩

/-- Lets only errors through. -/
def errorsOnly : LogFilter :=
  ⟨[⟨"", none, false, LogLevel.error.rank⟩]⟩

/-- The directives in a text, divided by commas. -/
def parse? (text : String) : Option LogFilter := do
  let words := (text.splitToList (· = ',')).filter (· ≠ "")
  if words.isEmpty then return errorsOnly
  else return ⟨← words.mapM LogDirective.parse?⟩

/-- The filter that the environment asks for. -/
def ofEnvironment (environment : Environment) : LogFilter :=
  ((environment "RUST_LOG").bind parse?).getD standard

/-- The directive that decides on an event: of those that cover it the one to which all
others yield, and of equal ones the last. -/
def decisive? (filter : LogFilter) (event : LogEvent) : Option LogDirective :=
  filter.directives.foldl (fun best directive =>
    if directive.spansOnly ∨ !directive.covers event then best
    else
      match best with
      | some held => if held.yields directive then some directive else some held
      | none => some directive) none

def admits (filter : LogFilter) (event : LogEvent) : Bool :=
  match filter.decisive? event with
  | some directive => event.level.rank ≤ directive.threshold
  | none => false

end LogFilter

/-- Whether events are written as JSON. -/
def writesJson (environment : Environment) : Bool :=
  (environment "LOG_FORMAT").any fun format => format.map Char.toLower = "json"

end ClipRank
