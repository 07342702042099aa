import ClipRank.Text.Blank

/-!
The five parts of a score, and the two profiles that choose among them.
-/

namespace ClipRank

inductive Component where
  | reach
  | engagement
  | consistency
  | community
  | efficiency
deriving Repr, DecidableEq

namespace Component

/-- All components in display order. -/
def all : List Component :=
  [reach, engagement, consistency, community, efficiency]

def name : Component → String
  | reach => "reach"
  | engagement => "engagement"
  | consistency => "consistency"
  | community => "community"
  | efficiency => "efficiency"

/-- One line for explanations and tooltips. -/
def description : Component → String
  | reach => "Total views on a log scale; broader reach and discoverability."
  | engagement => "Likes and comments per 1,000 views, comments weighted 5x."
  | consistency => "Sustained performance relative to the record's age."
  | community => "Share of comments in total engagement; discussion depth."
  | efficiency => "Views per minute of content."

end Component

/-- How a record is scored. `classic` has all five components, with consistency
as engagement raised by age. `balanced` leaves out efficiency and takes
consistency from the daily views, trusted less for young records. -/
inductive Profile where
  | classic
  | balanced
deriving Repr, DecidableEq, Inhabited

namespace Profile

def name : Profile → String
  | classic => "classic"
  | balanced => "balanced"

/-- The profile that a text names, or the text as it was looked up. Blanks around it
and the case of ASCII letters do not matter. -/
def parse (text : String) : Except String Profile :=
  let name := (Text.trim text).map Char.toLower
  if name = "classic" ∨ name = "v1" then .ok classic
  else if name = "balanced" ∨ name = "v2" then .ok balanced
  else .error name

/-- What is said of a name that no profile has. -/
def unknownMessage (name : String) : String :=
  "unknown scoring profile: " ++ name

/-- The components that count, in display order. -/
def components : Profile → List Component
  | classic => Component.all
  | balanced => [.reach, .engagement, .consistency, .community]

theorem components_few (profile : Profile) : profile.components.length ≤ 5 := by
  cases profile <;> decide

theorem components_distinct (profile : Profile) : profile.components.Nodup := by
  cases profile <;> decide

end Profile

/-- The value of each component. The efficiency is absent from a balanced score. -/
structure Components (α : Type) where
  reach : α
  engagement : α
  consistency : α
  community : α
  efficiency : Option α
deriving Repr, DecidableEq

namespace Components

variable {α : Type}

def get? (components : Components α) : Component → Option α
  | .reach => some components.reach
  | .engagement => some components.engagement
  | .consistency => some components.consistency
  | .community => some components.community
  | .efficiency => components.efficiency

/-- The components that are present, with their values. -/
def toList (components : Components α) : List (Component × α) :=
  Component.all.filterMap fun component => (components.get? component).map (component, ·)

end Components

end ClipRank
