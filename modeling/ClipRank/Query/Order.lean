import ClipRank.Query.Basic
import ClipRank.Text.Lowercase

/-!
The order of field values. Numbers come before strings, and both before all else
and before nothing at all, which tie with each other.
-/

namespace ClipRank

/-- What values are sorted by before they are compared. -/
inductive ValueClass where
  | number
  | text
  | other
deriving Repr, DecidableEq

namespace ValueClass

def of : Option Json → ValueClass
  | some (.number _) => number
  | some (.string _) => text
  | _ => other

def position : ValueClass → Nat
  | number => 0
  | text => 1
  | other => 2

end ValueClass

/-- By the lowercase of both texts; texts that differ only in case are in reverse
order of their characters, so that a small letter comes first. -/
def compareText (a b : String) : Ordering :=
  (compare (Text.lowercase a).toList (Text.lowercase b).toList).then (compare b.toList a.toList)

def compareValues (a b : Option Json) : Ordering :=
  match a, b with
  | some (.number x), some (.number y) => Binary64.totalOrder x.toFloat y.toFloat
  | some (.string x), some (.string y) => compareText x y
  | _, _ => compare (ValueClass.of a).position (ValueClass.of b).position

namespace SortOrder

/-- The comparison of a sort. A descending one reverses each class of values, and
not the classes, so records without a comparable value come last either way. -/
def compareBy (order : SortOrder) (a b : Option Json) : Ordering :=
  match order with
  | ascending => compareValues a b
  | descending =>
    if ValueClass.of a = ValueClass.of b then (compareValues a b).swap else compareValues a b

end SortOrder

end ClipRank
