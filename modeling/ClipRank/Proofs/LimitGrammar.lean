import ClipRank.Query.Grammar
import ClipRank.Proofs.WholeDoubles

/-! Which numbers are limits: the whole ones from 1 on, whether they are given as words
or as doubles. -/

namespace ClipRank.Proofs.LimitGrammar
open DoubleValue WholeDoubles Float.Model.UnpackedFloat

/-- The exact value of a number. -/
def rational? : Number → Option ℚ
  | .unsigned value => some value.toNat
  | .negative magnitude => some (-magnitude.toNat)
  | .real value => value? value

/-- A limit is a whole number, and the largest one is taken for one less. -/
inductive Limits : Option Json → Nat → Prop where
  | given {number} {whole : Nat} (denotes : rational? number = some (whole : ℚ)) (least : 1 ≤ whole)
      (most : whole ≤ 2 ^ 64) : Limits (some (.number number)) (min whole (2 ^ 64 - 1))

theorem Limits.bounds {given : Option Json} {count : Nat} (limits : Limits given count) : 1 ≤ count ∧ count < 2 ^ 64 := by
  cases limits with
  | given _ least _ => omega

private theorem value_largest : value? 18446744073709551616.0 = some (2 ^ 64) :=
  value_power 64 rfl

/-- A double is a limit just when it is a whole number in range. -/
private theorem double_limit {x : Float} {count : Nat} :
    Query.limit? (.number (.real x)) = some count ↔
      ∃ whole : Nat, value? x = some (whole : ℚ) ∧ 1 ≤ whole ∧ whole ≤ 2 ^ 64 ∧ count = min whole (2 ^ 64 - 1) := by
  have word {whole : Nat} (found : value? x = some (whole : ℚ)) : x.toUInt64.toNat = min whole (2 ^ 64 - 1) := by
    rw [toUInt64_eq found (Nat.cast_nonneg whole), Nat.floor_natCast]
  have unfolded : Query.limit? (.number (.real x)) =
      if Float.le 1.0 x && Float.le x 18446744073709551616.0 && Binary64.isWhole x then some x.toUInt64.toNat
      else none := rfl
  rw [unfolded, Option.ite_none_right_eq_some, Option.some_inj, Bool.and_eq_true, Bool.and_eq_true, isWhole_iff]
  constructor
  · rintro ⟨⟨⟨least, most⟩, integer, denotes⟩, rfl⟩
    have least := (le_iff value_one denotes).mp least
    have most := (le_iff denotes value_largest).mp most
    have positive : 0 ≤ integer := by exact_mod_cast zero_le_one.trans least
    obtain ⟨whole, rfl⟩ := Int.eq_ofNat_of_zero_le positive
    exact ⟨whole, denotes, by exact_mod_cast least, by exact_mod_cast most, word denotes⟩
  · rintro ⟨whole, denotes, least, most, rfl⟩
    have least : (1 : ℚ) ≤ whole := by exact_mod_cast least
    have most : (whole : ℚ) ≤ 2 ^ 64 := by exact_mod_cast most
    have bounds := And.intro ((le_iff value_one denotes).mpr least) ((le_iff denotes value_largest).mpr most)
    exact ⟨⟨bounds, whole, denotes⟩, word denotes⟩

private theorem word_limit {word : UInt64} {count : Nat} :
    Query.limit? (.number (.unsigned word)) = some count ↔ 1 ≤ word.toNat ∧ count = word.toNat := by
  have zero : word = 0 ↔ word.toNat = 0 := UInt64.toNat_inj.symm
  rw [Query.limit?, Option.ite_none_left_eq_some, Option.some_inj, zero]
  omega

private theorem negative_limit {magnitude : UInt64} : Query.limit? (.number (.negative magnitude)) = none := by
  have unfolded : Query.limit? (.number (.negative magnitude)) =
      if Float.le 1.0 (-magnitude.toFloat) && Float.le (-magnitude.toFloat) 18446744073709551616.0 &&
          Binary64.isWhole (-magnitude.toFloat) then some (-magnitude.toFloat).toUInt64.toNat
      else none := rfl
  simp only [unfolded, not_one_le_neg, Bool.false_and, Bool.false_eq_true, if_false]

theorem limit_iff {given : Option Json} {count : Nat} :
    given.bind Query.limit? = some count ↔ Limits given count := by
  rw [Option.bind_eq_some_iff]
  constructor
  · rintro ⟨value, rfl, found⟩
    cases value with
    | number number =>
      cases number with
      | unsigned word =>
        obtain ⟨least, rfl⟩ := word_limit.mp found
        have most := word.toNat_lt
        have same : word.toNat = min word.toNat (2 ^ 64 - 1) := by omega
        rw [same]
        exact .given rfl least (by omega)
      | negative magnitude => rw [negative_limit] at found; cases found
      | real x =>
        obtain ⟨whole, denotes, least, most, rfl⟩ := double_limit.mp found
        exact .given denotes least most
    | null | boolean | string | array | object => cases found
  · intro limits
    cases limits with
    | @given number whole denotes least most =>
      refine ⟨_, rfl, ?_⟩
      cases number with
      | unsigned word =>
        have same : word.toNat = whole := by exact_mod_cast Option.some.inj denotes
        have small := word.toNat_lt
        exact word_limit.mpr ⟨by omega, by omega⟩
      | negative magnitude =>
        have same : -(magnitude.toNat : ℚ) = whole := Option.some.inj denotes
        have natural : (0 : ℚ) ≤ magnitude.toNat := Nat.cast_nonneg _
        have positive : (1 : ℚ) ≤ whole := by exact_mod_cast least
        linarith
      | real x => exact double_limit.mpr ⟨whole, denotes, least, most, rfl⟩

end ClipRank.Proofs.LimitGrammar
