import ClipRank.Proofs.NearestDoubles
import ClipRank.Query.Condition
import ClipRank.Query.Order

/-! Whole numbers in filters and sorts. Both compare the doubles nearest to them, so a
number of at most 53 bits is told apart from every other one, and longer ones can be
taken for each other. -/

namespace ClipRank.Proofs.WholeNumbers
open DoubleValue WholeDoubles SignedDoubles NearestDoubles

/-- The numbers that are written without a point or an exponent. -/
inductive Whole : Number → Int → Prop
  | unsigned (word : UInt64) : Whole (.unsigned word) word.toNat
  | negative {word : UInt64} (positive : 0 < word.toNat) : Whole (.negative word) (-word.toNat)

def nearestWhole (number : Int) : Int :=
  if number < 0 then -nearest number.natAbs else nearest number.natAbs

section Nearest
variable {m n : Int}

private theorem nearestWhole_mono (below : m ≤ n) : nearestWhole m ≤ nearestWhole n := by
  unfold nearestWhole
  rcases lt_or_ge n 0 with negative | natural
  · have sizes : nearest n.natAbs ≤ nearest m.natAbs := nearest_mono (by omega)
    rw [if_pos (by omega), if_pos negative]
    omega
  · rw [if_neg (not_lt.mpr natural)]
    rcases lt_or_ge m 0 with opposite | same
    · rw [if_pos opposite]
      omega
    · rw [if_neg (not_lt.mpr same)]
      exact Int.ofNat_le.mpr (nearest_mono (by omega))

private theorem nearestWhole_inj (short : m.natAbs < 2 ^ 53) : nearestWhole m = nearestWhole n ↔ m = n := by
  have positive (number : Int) (negative : number < 0) : 0 < nearest number.natAbs := nearest_pos (by omega)
  have sizes : nearest m.natAbs = nearest n.natAbs ↔ m.natAbs = n.natAbs := nearest_eq_small short
  unfold nearestWhole
  -- Numbers with different signs differ, since only zero comes out as zero.
  rcases lt_or_ge m 0 with below | above
  all_goals
    rcases lt_or_ge n 0 with otherBelow | otherAbove
    all_goals
      have size := positive m
      have other := positive n
      split_ifs <;> omega

private theorem compare_nearest (short : m.natAbs < 2 ^ 53 ∨ n.natAbs < 2 ^ 53) :
    (nearestWhole m = nearestWhole n ↔ m = n) ∧ compare (nearestWhole m) (nearestWhole n) = compare m n := by
  have same : nearestWhole m = nearestWhole n ↔ m = n := by
    rcases short with first | second
    · exact nearestWhole_inj first
    · rw [eq_comm, nearestWhole_inj second, eq_comm]
  refine ⟨same, ?_⟩
  rcases lt_trichotomy m n with less | rfl | more
  · have below := (nearestWhole_mono less.le).lt_of_ne (same.not.mpr less.ne)
    rw [compare_lt_iff_lt.mpr less, compare_lt_iff_lt.mpr below]
  · rw [compare_eq_iff_eq.mpr rfl, compare_eq_iff_eq.mpr rfl]
  · have above := (nearestWhole_mono more.le).lt_of_ne' (same.not.mpr more.ne')
    rw [compare_gt_iff_gt.mpr more, compare_gt_iff_gt.mpr above]

end Nearest

section Compare
variable {first second : Number} {m n : Int}

private theorem whole_value (whole : Whole first m) :
    value? first.toFloat = some (nearestWhole m : ℚ) ∧ first.toFloat.toModel.unpack ≠ .zero .negative := by
  cases whole with
  | unsigned word =>
    refine ⟨?_, fun zero => ?_⟩
    · rw [nearestWhole, if_neg (by omega), Int.natAbs_natCast]
      exact value_nearest word
    · have signed := toFloat_signed word
      change word.toFloat.toModel.unpack = _ at zero
      rw [zero] at signed
      cases signed
  | @negative word positive =>
    have found : value? (-word.toFloat) = some (-(nearest word.toNat : ℚ)) := value_neg (value_nearest word)
    refine ⟨?_, fun zero => ?_⟩
    · rw [nearestWhole, if_pos (by omega), Int.natAbs_neg, Int.natAbs_natCast]
      push_cast
      exact found
    · have nothing : value? (-word.toFloat) = some 0 := by
        change (-word.toFloat).toModel.unpack = _ at zero
        rw [value?, zero]
        rfl
      have size : (nearest word.toNat : ℚ) ≠ 0 := by exact_mod_cast (nearest_pos positive).ne'
      exact size (neg_eq_zero.mp (Option.some.inj (found.symm.trans nothing)))

private theorem holds_eq (value operand : Json) :
    Condition.holds { Condition.empty with eq := some operand } (some value) = Condition.equals value operand := by
  simp [Condition.holds, Condition.empty, Condition.eqHolds, Condition.numberHolds, Condition.containsHolds]

/-- An equality filter and a sort see whole numbers as the doubles nearest to them. So
the order is kept but for ties, and a number of at most 53 bits ties with no other. -/
theorem seen_as_doubles (whole : Whole first m) (other : Whole second n) :
    (Condition.holds { Condition.empty with eq := some (.number second) } (some (.number first)) = true ↔
        nearestWhole m = nearestWhole n) ∧
      compareValues (some (.number first)) (some (.number second)) = compare (nearestWhole m) (nearestWhole n) ∧
      (m ≤ n → compareValues (some (.number first)) (some (.number second)) ≠ .gt) ∧
      (m.natAbs < 2 ^ 53 ∨ n.natAbs < 2 ^ 53 →
        (Condition.holds { Condition.empty with eq := some (.number second) } (some (.number first)) = true ↔ m = n) ∧
          compareValues (some (.number first)) (some (.number second)) = compare m n) := by
  obtain ⟨found, filled⟩ := whole_value whole
  obtain ⟨otherFound, otherFilled⟩ := whole_value other
  have equal : Condition.holds { Condition.empty with eq := some (.number second) } (some (.number first)) = true ↔
      nearestWhole m = nearestWhole n := by
    rw [holds_eq]
    exact (beq_iff found otherFound).trans Int.cast_inj
  have order : compareValues (some (.number first)) (some (.number second)) =
      compare (nearestWhole m) (nearestWhole n) := by
    change Binary64.totalOrder first.toFloat second.toFloat = _
    rw [totalOrder_value found otherFound filled otherFilled, ← cmp_eq_compare, Int.cast_strictMono.cmp_map_eq, cmp_eq_compare]
  refine ⟨equal, order, fun below => ?_, fun short => ?_⟩
  · rw [order]
    exact compare_le_iff_le.mpr (nearestWhole_mono below)
  · obtain ⟨same, compared⟩ := compare_nearest short
    exact ⟨equal.trans same, order.trans compared⟩

theorem seen_as_doubles_below_zero :
    Condition.holds { Condition.empty with eq := some (.number (.negative 9007199254740992)) }
        (some (.number (.negative 9007199254740993))) = true ∧
      compareValues (some (.number (.negative 9007199254740993))) (some (.number (.unsigned 7))) = .lt := by
  have lowest : Whole (.negative 9007199254740993) (-9007199254740993) :=
    .negative (by decide : 0 < (9007199254740993 : UInt64).toNat)
  have next : Whole (.negative 9007199254740992) (-9007199254740992) :=
    .negative (by decide : 0 < (9007199254740992 : UInt64).toNat)
  have seven : Whole (.unsigned 7) 7 := .unsigned 7
  have tie := (seen_as_doubles lowest next).1
  have short := (seen_as_doubles lowest seven).2.2.2 (Or.inr (by decide))
  exact ⟨tie.mpr (by decide +kernel), short.2.trans (by decide)⟩

/-- Two identifiers that differ in their 54th bit. -/
theorem long_numbers_taken_for_equal :
    Whole (.unsigned 9007199254740992) 9007199254740992 ∧ Whole (.unsigned 9007199254740993) 9007199254740993 ∧
      Condition.holds { Condition.empty with eq := some (.number (.unsigned 9007199254740993)) }
        (some (.number (.unsigned 9007199254740992))) = true ∧
      compareValues (some (.number (.unsigned 9007199254740992))) (some (.number (.unsigned 9007199254740993))) = .eq :=
  ⟨.unsigned 9007199254740992, .unsigned 9007199254740993, by decide +kernel, by decide +kernel⟩

end Compare

end ClipRank.Proofs.WholeNumbers
