import Mathlib.Data.List.Induction
import ClipRank.Proofs.CalendarDates
import ClipRank.Proofs.NumberText
import ClipRank.Proofs.Outcome

/-! Instants and their texts. An instant that is read has a day within the years that have
instants, and a second on top only in the last second of a minute. The text of such an
instant is read back to it. -/

namespace ClipRank.Proofs.TimestampText
open Timestamp CalendarDates NumberText
open Binary64 (digitsValue)

section Digits

theorem digitsValue_eq (digits : List Char) : digitsValue digits = Nat.ofDigitChars 10 digits 0 := by
  rw [Nat.ofDigitChars_eq_foldl]
  unfold digitsValue
  congr
  funext value digit
  rw [Nat.mul_comm]

private theorem digitsValue_zeros (count : Nat) (digits : List Char) :
    digitsValue (List.replicate count '0' ++ digits) = digitsValue digits := by
  unfold digitsValue
  induction count with
  | zero => rfl
  | succ count ih =>
    rw [List.replicate_succ, List.cons_append, List.foldl_cons]
    exact ih

theorem digitsValue_padded (width value : Nat) : digitsValue (padded width value) = value := by
  unfold padded
  rw [digitsValue_zeros, digitsValue_eq, Nat.ofDigitChars_toDigits (by decide) (by decide)]

theorem padded_digits (width value : Nat) : Digits (padded width value) := by
  intro c mem
  unfold padded at mem
  rcases List.mem_append.mp mem with zero | digit
  · rw [List.eq_of_mem_replicate zero]
    rfl
  · exact Nat.isDigit_of_mem_toDigits (by decide) (by decide) digit

private theorem padded_filled (width value : Nat) : padded width value ≠ [] :=
  List.append_ne_nil_of_right_ne_nil _ Nat.toDigits_ne_nil

theorem padded_length {width value : Nat} (positive : 0 < width) (fits : value < 10 ^ width) :
    (padded width value).length = width := by
  have short := (Nat.length_toDigits_le_iff (by decide) positive).mpr fits
  rw [padded, List.length_append, List.length_replicate, Nat.sub_add_cancel short]

private theorem digitsValue_lt {digits : List Char} (all : Digits digits) : digitsValue digits < 10 ^ digits.length := by
  induction digits using List.reverseRecOn with
  | nil => decide
  | append_singleton digits last ih =>
    have bound := ih fun c mem => all c (List.mem_append_left _ mem)
    have digit := Char.isDigit_iff_toNat.mp (all last (by simp))
    have size : last.toNat - '0'.toNat < 10 := by
      have most : last.toNat ≤ 57 := digit.2
      have zero : '0'.toNat = 48 := rfl
      omega
    unfold digitsValue at bound ⊢
    rw [List.foldl_append, List.foldl_cons, List.foldl_nil, List.length_append, List.length_singleton, Nat.pow_succ]
    omega

end Digits

section Readers
variable {digits rest : List Char} {c : Char}

private theorem digit_filled (digit : c.isDigit = true) : Text.isBlank c = false := by
  obtain ⟨low, high⟩ := Char.isDigit_iff_toNat.mp digit
  have least : 48 ≤ c.toNat := low
  have most : c.toNat ≤ 57 := high
  simp [Text.isBlank, Text.inRanges, Text.blankRanges]
  omega

private theorem trimStart_cons (filled : Text.isBlank c = false) : Text.trimStart (c :: rest) = c :: rest :=
  List.dropWhile_cons_of_neg (by simp [filled])

private theorem trimStart_digits (filled : digits ≠ []) (all : Digits digits) :
    Text.trimStart (digits ++ rest) = digits ++ rest := by
  cases digits with
  | nil => exact absurd rfl filled
  | cons first digits => exact trimStart_cons (digit_filled (all first List.mem_cons_self))

/-- A run of digits is read whole, up to what is no digit. -/
private theorem readDigits_run {width : Option Nat} (filled : digits ≠ []) (all : Digits digits) (stop : c.isDigit = false)
    (fits : ∀ limit, width = some limit → digits.length ≤ limit) (short : digitsValue digits < 2 ^ 63) :
    readDigits width (digits ++ c :: rest) = .ok (digitsValue digits, c :: rest) := by
  have run : (digits ++ c :: rest).takeWhile Char.isDigit = digits := (digits_end all (by simpa using stop)).1
  have some : digits ++ c :: rest ≠ [] := by simp
  unfold readDigits
  dsimp only
  rw [run]
  cases width with
  | none =>
    dsimp only
    rw [if_neg some, if_neg filled, if_pos (show _ < Nat.pow 2 63 from short), List.drop_left]
  | some limit =>
    have kept : digits.take limit = digits := List.take_of_length_le (fits limit rfl)
    simp only [kept]
    rw [if_neg some, if_neg filled, if_pos (show _ < Nat.pow 2 63 from short), List.drop_left]

private theorem readDigits_padded {width value limit : Nat} (positive : 0 < width) (fits : value < 10 ^ width)
    (narrow : width ≤ limit) (short : value < 2 ^ 63) (stop : c.isDigit = false) :
    readDigits (some limit) (padded width value ++ c :: rest) = .ok (value, c :: rest) := by
  have read : readDigits (some limit) (padded width value ++ c :: rest) =
      .ok (digitsValue (padded width value), c :: rest) :=
    readDigits_run (padded_filled width value) (padded_digits width value) stop
      (by simpa [padded_length positive fits] using narrow) (by rwa [digitsValue_padded])
  rwa [digitsValue_padded] at read

private theorem readField_padded {first last value : Nat} (least : first ≤ value) (most : value ≤ last) (short : last < 100)
    (stop : c.isDigit = false) : readField first last (padded 2 value ++ c :: rest) = .ok (value, c :: rest) := by
  unfold readField
  rw [trimStart_digits (padded_filled 2 value) (padded_digits 2 value),
    readDigits_padded (by decide) (by omega) le_rfl (by omega) stop]
  exact if_pos ⟨least, most⟩

private theorem readMark_found {mark : Char} (filled : Text.isBlank mark = false) :
    readMark mark (mark :: rest) = .ok ((), rest) := by
  unfold readMark
  rw [trimStart_cons filled]
  exact if_pos rfl

private theorem readDivider_found : readDivider ('T' :: rest) = .ok ((), rest) :=
  rfl

private theorem readOffset_universal : readOffset (Text.trimStart ['Z']) = .ok (0, []) := by
  have short : (String.ofList (List.take 3 ['Z'])).map Char.toUpper ≠ "UTC" := by
    intro same
    have lists := congrArg String.toList same
    rw [String.toList_map, String.toList_ofList] at lists
    exact absurd lists (by decide)
  rw [trimStart_cons (by decide)]
  unfold readOffset
  rw [if_neg short]
  rfl

private theorem readYear_unsigned {year : Nat} (short : year < 10000) :
    readYear (padded 4 year ++ '-' :: rest) = .ok ((year : Int), '-' :: rest) := by
  have read : readDigits (some 4) (padded 4 year ++ '-' :: rest) = .ok (year, '-' :: rest) :=
    readDigits_padded (by decide) (by omega) le_rfl (by omega) rfl
  have digits := padded_digits 4 year
  obtain ⟨first, others, same⟩ := List.exists_cons_of_ne_nil (padded_filled 4 year)
  rw [same] at read digits
  have digit := digits first List.mem_cons_self
  have bound : Nat.pow 2 31 = 2147483648 := rfl
  unfold readYear
  rw [same, trimStart_digits (List.cons_ne_nil _ _) digits]
  split
  next minus =>
    cases minus
    exact absurd digit (by decide)
  next plus =>
    cases plus
    exact absurd digit (by decide)
  next =>
    simp only [read, bound, Except.map, bind, Except.bind]
    rw [if_pos (by omega)]
    rfl

private theorem readYear_signed {year : Nat} {sign : Char} {value : Int}
    (signed : sign = '-' ∧ value = -year ∨ sign = '+' ∧ value = year) (short : year < 2147483648) :
    readYear (sign :: padded 4 year ++ '-' :: rest) = .ok (value, '-' :: rest) := by
  have read : readDigits none (padded 4 year ++ '-' :: rest) = .ok (digitsValue (padded 4 year), '-' :: rest) :=
    readDigits_run (padded_filled 4 year) (padded_digits 4 year) rfl (by simp) (by rw [digitsValue_padded]; omega)
  rw [digitsValue_padded] at read
  have bound : Nat.pow 2 31 = 2147483648 := rfl
  rcases signed with ⟨rfl, rfl⟩ | ⟨rfl, rfl⟩
  all_goals
    unfold readYear
    rw [List.cons_append, trimStart_cons (by decide)]
    simp only [read, bound, Except.map, bind, Except.bind]
    rw [if_pos (by omega)]
    rfl

private theorem readYear_rendered {year : Int} (within : firstYear ≤ year ∧ year ≤ lastYear) :
    readYear (renderYear year ++ '-' :: rest) = .ok (year, '-' :: rest) := by
  obtain ⟨low, high⟩ := within
  have bounds : firstYear = -262143 ∧ lastYear = 262142 := ⟨rfl, rfl⟩
  unfold renderYear
  split_ifs with short negative
  · have read : readYear (padded 4 year.toNat ++ '-' :: rest) = .ok ((year.toNat : Int), '-' :: rest) :=
      readYear_unsigned (by omega)
    rwa [Int.toNat_of_nonneg short.1] at read
  · exact readYear_signed (Or.inl ⟨rfl, by omega⟩) (by omega)
  · exact readYear_signed (Or.inr ⟨rfl, by omega⟩) (by omega)

private theorem readFraction_rendered {nanosecond : Nat} (short : nanosecond < 1000000000) :
    readFraction (renderFraction nanosecond ++ ['Z']) = .ok (nanosecond, ['Z']) := by
  have pointed {width value : Nat} (positive : 0 < width) (narrow : width ≤ 9) (fits : value < 10 ^ width) :
      readFraction ('.' :: padded width value ++ ['Z']) = .ok (value * 10 ^ (9 - width), ['Z']) := by
    have short : value < 10 ^ 9 := fits.trans_le (Nat.pow_le_pow_right (by decide) narrow)
    have read : readDigits (some 9) (padded width value ++ ['Z']) = .ok (value, ['Z']) :=
      readDigits_padded positive fits narrow (by omega) rfl
    have length := padded_length positive fits
    unfold readFraction
    rw [List.cons_append]
    simp only [read, bind, Except.bind]
    rw [List.length_append, length, Nat.add_sub_cancel]
    rfl
  unfold renderFraction
  split_ifs with none thousands units
  · rw [none]
    rfl
  · rw [pointed (by decide) (by decide) (by omega)]
    congr 2
    omega
  · rw [pointed (by decide) (by decide) (by omega)]
    congr 2
    omega
  · rw [pointed (by decide) (by decide) (by omega)]
    congr 2
    omega

private theorem fraction_starts (nanosecond : Nat) :
    ∃ c rest, renderFraction nanosecond ++ ['Z'] = c :: rest ∧ c.isDigit = false := by
  unfold renderFraction
  split_ifs
  · exact ⟨_, _, rfl, rfl⟩
  all_goals exact ⟨_, _, List.cons_append, rfl⟩

end Readers

/-- What an instant is that can be read. -/
structure Regular (instant : Timestamp) : Prop where
  first : dayOfDate firstYear 1 1 ≤ instant.day
  last : instant.day ≤ dayOfDate lastYear 12 31
  second : instant.second < 86400
  nanosecond : instant.nanosecond < 2000000000
  leap : 1000000000 ≤ instant.nanosecond → instant.second % 60 = 59

private theorem readDigits_bounded {width value : Nat} {text rest : List Char}
    (read : readDigits (some width) text = .ok (value, rest)) :
    text.length - rest.length ≤ width ∧ value < 10 ^ (text.length - rest.length) := by
  obtain ⟨digits, others, rfl, all, ends⟩ := digits_split text
  unfold readDigits at read
  rw [(digits_end all ends).1] at read
  dsimp only at read
  split_ifs at read
  cases read
  have taken : (digits ++ others).length - ((digits ++ others).drop (digits.take width).length).length =
      (digits.take width).length := by
    simp only [List.length_drop, List.length_append, List.length_take]
    omega
  rw [taken]
  exact ⟨List.length_take_le _ _, digitsValue_lt fun c mem => all c (List.mem_of_mem_take mem)⟩

private theorem readFraction_lt {text rest : List Char} {nanosecond : Nat} (read : readFraction text = .ok (nanosecond, rest)) :
    nanosecond < 1000000000 := by
  unfold readFraction at read
  split at read
  next text =>
    obtain ⟨⟨value, after⟩, digits, read⟩ := Outcome.bind_ok.mp read
    obtain ⟨narrow, small⟩ := readDigits_bounded digits
    cases read
    calc value * Nat.pow 10 (9 - (text.length - after.length))
        < 10 ^ (text.length - after.length) * 10 ^ (9 - (text.length - after.length)) :=
          Nat.mul_lt_mul_of_pos_right small (Nat.pow_pos (by decide))
      _ = 10 ^ 9 := by rw [← Nat.pow_add, Nat.add_sub_cancel' narrow]
      _ = 1000000000 := by norm_num
  next =>
    cases read
    decide

private theorem readOffsetSize_minutes {text rest : List Char} {offset : Int}
    (read : readOffsetSize text = .ok (offset, rest)) : offset % 60 = 0 := by
  unfold readOffsetSize at read
  obtain ⟨⟨hours, _⟩, _, read⟩ := Outcome.bind_ok.mp read
  obtain ⟨⟨minutes, _⟩, _, read⟩ := Outcome.bind_ok.mp read
  cases read
  omega

/-- An offset has whole minutes. -/
private theorem readOffset_minutes {text rest : List Char} {offset : Int} (read : readOffset text = .ok (offset, rest)) :
    offset % 60 = 0 := by
  unfold readOffset at read
  split_ifs at read with universal
  · cases read
    rfl
  · split at read
    · cases read
    · split_ifs at read with zero plus minus
      · cases read
        rfl
      · exact readOffsetSize_minutes read
      · obtain ⟨⟨size, _⟩, sized, same⟩ := Outcome.map_ok.mp read
        cases same
        have minutes := readOffsetSize_minutes sized
        omega

theorem parse_regular {text : String} {instant : Timestamp} (read : parse text = .ok instant) : Regular instant := by
  unfold parse at read
  obtain ⟨⟨year, afterYear⟩, _, read⟩ := Outcome.bind_ok.mp read
  obtain ⟨⟨_, afterMark⟩, _, read⟩ := Outcome.bind_ok.mp read
  obtain ⟨⟨month, afterMonth⟩, _, read⟩ := Outcome.bind_ok.mp read
  obtain ⟨⟨_, afterSecondMark⟩, _, read⟩ := Outcome.bind_ok.mp read
  obtain ⟨⟨day, afterDay⟩, _, read⟩ := Outcome.bind_ok.mp read
  obtain ⟨⟨_, afterDivider⟩, _, read⟩ := Outcome.bind_ok.mp read
  obtain ⟨⟨hour, afterHour⟩, _, read⟩ := Outcome.bind_ok.mp read
  obtain ⟨⟨_, afterColon⟩, _, read⟩ := Outcome.bind_ok.mp read
  obtain ⟨⟨minute, afterMinute⟩, _, read⟩ := Outcome.bind_ok.mp read
  obtain ⟨⟨_, afterSecondColon⟩, _, read⟩ := Outcome.bind_ok.mp read
  obtain ⟨⟨second, afterSecond⟩, seconds, read⟩ := Outcome.bind_ok.mp read
  obtain ⟨⟨fraction, afterFraction⟩, fractions, read⟩ := Outcome.bind_ok.mp read
  obtain ⟨⟨offset, afterOffset⟩, offsets, read⟩ := Outcome.bind_ok.mp read
  obtain ⟨_, read⟩ := Outcome.check_ok.mp read
  obtain ⟨_, read⟩ := Outcome.check_ok.mp read
  obtain ⟨_, read⟩ := Outcome.check_ok.mp read
  obtain ⟨within, read⟩ := Outcome.check_ok.mp read
  have bound := readFraction_lt fractions
  have minutes := readOffset_minutes offsets
  rw [← Except.ok.inj read]
  have modulus (size : Int) : size.fmod 86400 = size % 86400 := Int.fmod_eq_emod_of_nonneg _ (by decide)
  refine ⟨by dsimp only; omega, by dsimp only; omega, ?_, ?_, fun leap => ?_⟩
  · dsimp only
    rw [modulus]
    omega
  · dsimp only
    split_ifs <;> omega
  · dsimp only at leap ⊢
    have last : second = 60 := by
      by_contra other
      rw [if_neg other] at leap
      omega
    rw [modulus, if_pos last]
    omega

theorem Regular.read_back {instant : Timestamp} (regular : Regular instant) : parse instant.render = .ok instant := by
  obtain ⟨day, second, nanosecond⟩ := instant
  obtain ⟨first, last, short, small, leap⟩ := regular
  dsimp only at first last short small leap
  obtain ⟨year, month, date, found⟩ : ∃ year month date, dateOfDay day = (year, month, date) := ⟨_, _, _, rfl⟩
  obtain ⟨months, dates, back⟩ := dateOfDay_valid found
  have years := year_between found first last
  have most : daysInMonth year month ≤ 31 := by
    unfold daysInMonth
    split_ifs <;> decide
  unfold render renderChars parse
  dsimp only
  rw [String.toList_ofList, found]
  simp only [List.append_assoc, List.cons_append]
  refine Outcome.bind_ok.mpr ⟨_, readYear_rendered years, ?_⟩
  refine Outcome.bind_ok.mpr ⟨_, readMark_found (by decide), ?_⟩
  refine Outcome.bind_ok.mpr ⟨_, readField_padded months.1 months.2 (by decide) (by decide), ?_⟩
  refine Outcome.bind_ok.mpr ⟨_, readMark_found (by decide), ?_⟩
  refine Outcome.bind_ok.mpr ⟨_, readField_padded dates.1 (dates.2.trans most) (by decide) (by decide), ?_⟩
  refine Outcome.bind_ok.mpr ⟨_, readDivider_found, ?_⟩
  refine Outcome.bind_ok.mpr ⟨_, readField_padded (Nat.zero_le _) (by omega) (by decide) (by decide), ?_⟩
  refine Outcome.bind_ok.mpr ⟨_, readMark_found (by decide), ?_⟩
  refine Outcome.bind_ok.mpr ⟨_, readField_padded (Nat.zero_le _) (by omega) (by decide) (by decide), ?_⟩
  refine Outcome.bind_ok.mpr ⟨_, readMark_found (by decide), ?_⟩
  obtain ⟨c, others, starts, stop⟩ := fraction_starts (nanosecond % 1000000000)
  have seconds : readField 0 60 (padded 2 (second % 60 + nanosecond / 1000000000) ++
      (renderFraction (nanosecond % 1000000000) ++ ['Z'])) =
        .ok (second % 60 + nanosecond / 1000000000, renderFraction (nanosecond % 1000000000) ++ ['Z']) := by
    rw [starts]
    exact readField_padded (Nat.zero_le _) (by omega) (by decide) stop
  refine Outcome.bind_ok.mpr ⟨_, seconds, ?_⟩
  refine Outcome.bind_ok.mpr ⟨_, readFraction_rendered (Nat.mod_lt _ (by decide)), ?_⟩
  refine Outcome.bind_ok.mpr ⟨_, readOffset_universal, ?_⟩
  refine Outcome.check_ok.mpr ⟨by decide, ?_⟩
  refine Outcome.check_ok.mpr ⟨by dsimp only; omega, ?_⟩
  refine Outcome.check_ok.mpr ⟨by decide, ?_⟩
  have ofDay : ((second / 3600 : Nat) : Int) * 3600 + (second / 60 % 60 : Nat) * 60 +
      ((if second % 60 + nanosecond / 1000000000 = 60 then 59 else second % 60 + nanosecond / 1000000000 : Nat) : Int) - 0 =
        second := by
    split_ifs <;> omega
  dsimp only
  have today : (second : Int).fdiv 86400 = 0 := by
    rw [Int.fdiv_eq_ediv_of_nonneg _ (by decide)]
    omega
  have rest : ((second : Int).fmod 86400).toNat = second := by
    rw [Int.fmod_eq_emod_of_nonneg _ (by decide)]
    omega
  rw [ofDay, today, rest, back, add_zero]
  refine Outcome.check_ok.mpr ⟨by omega, ?_⟩
  have fraction : nanosecond % 1000000000 + (if second % 60 + nanosecond / 1000000000 = 60 then 1000000000 else 0) =
      nanosecond := by
    split_ifs <;> omega
  exact congrArg (fun fraction => Except.ok (Timestamp.mk day second fraction)) fraction

end ClipRank.Proofs.TimestampText
