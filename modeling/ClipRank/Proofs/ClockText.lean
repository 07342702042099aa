import ClipRank.Duration
import ClipRank.Proofs.TimestampText

/-! Lengths in the form of a clock. What is shown of a length are its digits in base 60,
each of them a field, so the fields read back to the length and no two lengths are shown
alike. -/

namespace ClipRank.Proofs.ClockText
open Duration NumberText TimestampText
open Binary64 (digitsValue)
open Timestamp (padded)

/-- The digits of a number without zeros in front. -/
def Unpadded (field : List Char) : Prop :=
  ∃ value, field = Nat.toDigits 10 value

/-- A number below 60 in two digits. -/
structure Sixtieths (field : List Char) : Prop where
  digital : Digits field
  wide : field.length = 2
  short : digitsValue field < 60

/-- `Shown fields text`: the text shows the fields, as seconds with their mark, as minutes
and seconds or as hours, minutes and seconds. -/
inductive Shown : List (List Char) → List Char → Prop where
  | seconds {first} (plain : Unpadded first) (short : digitsValue first < 60) : Shown [first] (first ++ ['s'])
  | minutes {first second} (plain : Unpadded first) (filled : 0 < digitsValue first) (short : digitsValue first < 60)
      (rest : Sixtieths second) : Shown [first, second] (first ++ ':' :: second)
  | hours {first second third} (plain : Unpadded first) (filled : 0 < digitsValue first) (rest : Sixtieths second)
      (last : Sixtieths third) : Shown [first, second, third] (first ++ ':' :: (second ++ ':' :: third))

/-- The fields of a text between its colons, without the mark of seconds. -/
def fieldsOf (text : List Char) : List (List Char) :=
  (text.filter (· ≠ 's')).splitOn ':'

/-- The number that fields denote in base 60. -/
def base60 (fields : List (List Char)) : Nat :=
  fields.foldl (fun total field => total * 60 + digitsValue field) 0

section Fields
variable {value : Nat} {field : List Char} {fields : List (List Char)} {text : List Char}

private theorem digitsValue_toDigits (value : Nat) : digitsValue (Nat.toDigits 10 value) = value := by
  rw [digitsValue_eq, Nat.ofDigitChars_toDigits (by decide) (by decide)]

private theorem twoDigits_eq (value : Nat) : twoDigits value = padded 2 value := by
  have single := Nat.length_toDigits_le_iff (b := 10) (n := value) (k := 1) (by decide) (by decide)
  have some : 0 < (Nat.toDigits 10 value).length := List.length_pos_of_ne_nil Nat.toDigits_ne_nil
  unfold twoDigits padded
  dsimp only
  split
  next short =>
    have width : 2 - (Nat.toDigits 10 value).length = 1 := by omega
    rw [width]
    rfl
  next long =>
    have width : 2 - (Nat.toDigits 10 value).length = 0 := by omega
    rw [width]
    rfl

private theorem digitsValue_twoDigits (value : Nat) : digitsValue (twoDigits value) = value := by
  rw [twoDigits_eq, digitsValue_padded]

private theorem sixtieths_twoDigits (short : value < 60) : Sixtieths (twoDigits value) := by
  refine ⟨?_, ?_, ?_⟩
  · rw [twoDigits_eq]
    exact padded_digits 2 value
  · rw [twoDigits_eq]
    apply padded_length <;> omega
  · rwa [digitsValue_twoDigits]

private theorem Unpadded.digital (plain : Unpadded field) : Digits field := by
  obtain ⟨value, rfl⟩ := plain
  intro c member
  exact Nat.isDigit_of_mem_toDigits (by decide) (by decide) member

private theorem unmarked (digital : Digits field) : field.filter (· ≠ 's') = field := by
  apply List.filter_eq_self.mpr
  intro c member
  apply decide_eq_true
  rintro rfl
  exact Bool.false_ne_true (digital 's' member)

private theorem splitOn_fields (digital : ∀ field ∈ fields, Digits field) (some : fields ≠ []) :
    ([':'].intercalate fields).splitOn ':' = fields := by
  apply List.splitOn_intercalate ':' _ some
  intro field member colon
  exact Bool.false_ne_true (digital field member ':' colon)

/-- What is shown says where its fields are. -/
theorem Shown.fields_eq (shown : Shown fields text) : fieldsOf text = fields := by
  cases shown with
  | @seconds first plain short =>
    have kept : (first ++ ['s']).filter (· ≠ 's') = [':'].intercalate [first] := by
      rw [List.filter_append, unmarked plain.digital, List.intercalate_singleton]
      exact List.append_nil first
    rw [fieldsOf, kept]
    apply splitOn_fields _ (List.cons_ne_nil _ _)
    exact List.forall_mem_singleton.mpr plain.digital
  | @minutes first second plain filled short rest =>
    have kept : (first ++ ':' :: second).filter (· ≠ 's') = [':'].intercalate [first, second] := by
      rw [List.filter_append, List.filter_cons_of_pos (by decide), unmarked plain.digital, unmarked rest.digital]
      simp
    rw [fieldsOf, kept]
    apply splitOn_fields _ (List.cons_ne_nil _ _)
    exact List.forall_mem_cons.mpr ⟨plain.digital, List.forall_mem_singleton.mpr rest.digital⟩
  | @hours first second third plain filled rest last =>
    have kept : (first ++ ':' :: (second ++ ':' :: third)).filter (· ≠ 's') =
        [':'].intercalate [first, second, third] := by
      rw [List.filter_append, List.filter_cons_of_pos (by decide), List.filter_append, List.filter_cons_of_pos (by decide),
        unmarked plain.digital, unmarked rest.digital, unmarked last.digital]
      simp
    rw [fieldsOf, kept]
    apply splitOn_fields _ (List.cons_ne_nil _ _)
    exact List.forall_mem_cons.mpr
      ⟨plain.digital, List.forall_mem_cons.mpr ⟨rest.digital, List.forall_mem_singleton.mpr last.digital⟩⟩

end Fields

/-- A length is shown by its digits in base 60. -/
theorem clock_shown (seconds : Nat) : ∃ fields, Shown fields (clock seconds).toList ∧ base60 fields = seconds := by
  have value := digitsValue_toDigits
  have rest := digitsValue_twoDigits
  have last : Sixtieths (twoDigits (seconds % 60)) := sixtieths_twoDigits (Nat.mod_lt _ (by decide))
  have middle : Sixtieths (twoDigits (seconds % 3600 / 60)) := sixtieths_twoDigits (by omega)
  unfold clock
  dsimp only
  split
  next short =>
    rw [String.toList_ofList]
    refine ⟨_, .seconds ⟨seconds, rfl⟩ ?_, ?_⟩
    · rwa [value]
    · simp [base60, value]
  next long =>
    split
    next hours =>
      rw [String.toList_ofList, List.append_assoc, List.cons_append]
      refine ⟨_, .hours ⟨seconds / 3600, rfl⟩ ?_ middle last, ?_⟩
      · rwa [value]
      · simp only [base60, List.foldl_cons, List.foldl_nil, value, rest]
        omega
    next none =>
      rw [String.toList_ofList]
      refine ⟨_, .minutes ⟨seconds % 3600 / 60, rfl⟩ ?_ ?_ last, ?_⟩
      · rw [value]
        omega
      · rw [value]
        omega
      · simp only [base60, List.foldl_cons, List.foldl_nil, value, rest]
        omega

/-- Every length is shown in one of the three forms, its fields read back to it in base 60,
and lengths that are shown alike are equal. -/
theorem clock_read_back :
    (∀ seconds, ∃ fields, Shown fields (clock seconds).toList ∧ fieldsOf (clock seconds).toList = fields ∧
      base60 fields = seconds) ∧ Function.Injective clock := by
  have back : ∀ seconds, base60 (fieldsOf (clock seconds).toList) = seconds := by
    intro seconds
    obtain ⟨fields, shown, value⟩ := clock_shown seconds
    rw [shown.fields_eq, value]
  constructor
  · intro seconds
    obtain ⟨fields, shown, value⟩ := clock_shown seconds
    exact ⟨fields, shown, shown.fields_eq, value⟩
  · intro seconds other alike
    rw [← back seconds, alike, back other]

end ClipRank.Proofs.ClockText
