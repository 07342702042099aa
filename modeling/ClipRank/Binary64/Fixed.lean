import ClipRank.Binary64.Basic

/-!
Decimals with a fixed number of places. The exact value is rounded, so a tie is
a true tie of the stored double, and it goes to the even digit.
-/

namespace ClipRank.Binary64

/-- The whole number nearest to `num / den`, a tie going to the even one. -/
def roundDiv (num den : Nat) : Nat :=
  let whole := num / den
  let excess := 2 * (num % den)
  if excess < den then whole
  else if den < excess then whole + 1
  else whole + whole % 2

/-- A number of tenths, hundredths and so on, with its point. -/
def withPoint (places units : Nat) : List Char :=
  let digits := Nat.toDigits 10 units
  let padded := List.replicate (places + 1 - digits.length) '0' ++ digits
  let split := padded.length - places
  padded.take split ++ (if places = 0 then [] else '.' :: padded.drop split)

/-- A double with `places` digits after the point. A negative zero, and a
negative value that rounds to zero, keep their sign. -/
def fixed (places : Nat) (x : Float) : String :=
  if x.isNaN then "NaN"
  else if x.isInf then (if isNegative x then "-inf" else "inf")
  else
    let ⟨negative, mantissa, exponent⟩ := parts x
    let units := roundDiv (mantissa * Nat.pow 2 exponent.toNat * Nat.pow 10 places) (Nat.pow 2 (-exponent).toNat)
    String.ofList ((if negative then ['-'] else []) ++ withPoint places units)

end ClipRank.Binary64
