import ClipRank.Proofs.DecimalDoubles
import ClipRank.Proofs.NumeralText
import ClipRank.Proofs.ObjectExtraction
import ClipRank.VideoRecord.Json

/-! Numbers in quotes. A counter in quotes counts only if it is a word in digits, while a bare
one counts its whole part. A length in quotes is the double nearest to the decimal, while a
bare one is scaled by a power of ten, so the two agree where that is exact. -/

namespace ClipRank.Proofs.QuotedNumbers
open Json JsonReading NumberText NumeralText DecimalDoubles
open Binary64 (digitsValue)

section Absorb
variable {held : Nat} {run : List Char}

/-- The number that digits make after those before them. -/
private def following (held : Nat) (run : List Char) : Nat :=
  run.foldl (fun value digit => value * 10 + (digit.toNat - '0'.toNat)) held

private theorem following_ge (held : Nat) (run : List Char) : held ≤ following held run := by
  induction run generalizing held with
  | nil => exact le_rfl
  | cons c run ih =>
    have rest := ih (held * 10 + (c.toNat - '0'.toNat))
    change held ≤ following (held * 10 + (c.toNat - '0'.toNat)) run
    omega

private theorem absorb_fits (fits : following held run < 2 ^ 64) :
    Numeral.absorb held run = (following held run, run.length) := by
  induction run generalizing held with
  | nil => rfl
  | cons c run ih =>
    have next : held * 10 + (c.toNat - '0'.toNat) < Nat.pow 2 64 := (following_ge _ run).trans_lt fits
    have taken := ih fits
    simp only [Numeral.absorb]
    rw [if_pos next, taken]
    rfl

private theorem absorb_overflow (small : held < 2 ^ 64) (long : 2 ^ 64 ≤ following held run) :
    (Numeral.absorb held run).2 < run.length := by
  induction run generalizing held with
  | nil => exact absurd long (not_le.mpr small)
  | cons c run ih =>
    simp only [Numeral.absorb]
    split
    next fits => exact Nat.succ_lt_succ (ih fits long)
    next => exact Nat.succ_pos _

end Absorb

section Value
variable {numeral : Numeral} {number : Number}

/-- A literal with neither point nor mark. -/
def Pointless (numeral : Numeral) : Prop :=
  numeral.fraction = none ∧ numeral.exponent = none

/-- A literal that is only digits, and not too many for a word. -/
structure Word (numeral : Numeral) : Prop where
  unsigned : numeral.negative = false
  pointless : Pointless numeral
  fits : digits numeral < 2 ^ 64

private theorem whole_taken (fits : digits numeral < 2 ^ 64) :
    Numeral.absorb 0 numeral.whole = (digitsValue numeral.whole, numeral.whole.length) ∧
      Numeral.absorb (digitsValue numeral.whole) (numeral.fraction.getD []) =
        (digits numeral, (numeral.fraction.getD []).length) := by
  have whole : digits numeral = following (digitsValue numeral.whole) (numeral.fraction.getD []) := List.foldl_append
  rw [whole] at fits ⊢
  exact ⟨absorb_fits ((following_ge _ _).trans_lt fits), absorb_fits fits⟩

private theorem value_pointless (pointless : Pointless numeral) (fits : digits numeral < 2 ^ 64) :
    numeral.value? = some (if !numeral.negative then .unsigned (digits numeral).toUInt64
      else if 0 < digits numeral ∧ digits numeral ≤ Nat.pow 2 63 then .negative (digits numeral).toUInt64
      else .real (-(digits numeral).toUInt64.toFloat)) := by
  obtain ⟨taken, _⟩ := whole_taken fits
  have same := digits_whole pointless.1
  obtain ⟨negative, whole, fraction, exponent⟩ := numeral
  obtain ⟨rfl, rfl⟩ : fraction = none ∧ exponent = none := pointless
  simp only at taken same
  simp only [Numeral.value?, taken, same, Nat.sub_self]
  split
  · rfl
  · split <;> rfl

private theorem value_pointed (pointed : ¬ Pointless numeral) (fits : digits numeral < 2 ^ 64) :
    numeral.value? = (Numeral.real? (digits numeral) (-(numeral.fraction.getD []).length) numeral.exponent).map
      fun size => .real (if numeral.negative then -size else size) := by
  obtain ⟨taken, others⟩ := whole_taken fits
  unfold Numeral.value?
  simp only [taken, Nat.sub_self]
  split
  next fraction exponent _ => exact absurd ⟨fraction, exponent⟩ pointed
  next => simp [others]

private theorem value_long (long : 2 ^ 64 ≤ digits numeral) (valued : numeral.value? = some number) :
    number.toUInt64? = none := by
  unfold Numeral.value? at valued
  dsimp only at valued
  split at valued
  next fraction _ dropped =>
    have same : digits numeral = following 0 numeral.whole := digits_whole fraction
    have short := absorb_overflow (by norm_num) (same ▸ long)
    omega
  next =>
    obtain ⟨_, _, rfl⟩ := Option.map_eq_some_iff.mp valued
    rfl

private theorem Word.value (word : Word numeral) : numeral.value? = some (.unsigned (digits numeral).toUInt64) := by
  rw [value_pointless word.pointless word.fits, word.unsigned]
  rfl

private theorem wordless_value (wordless : ¬ Word numeral) (valued : numeral.value? = some number) :
    number.toUInt64? = none := by
  by_cases fits : digits numeral < 2 ^ 64
  · by_cases pointless : Pointless numeral
    · have signed : numeral.negative = true := by
        by_contra unsigned
        exact wordless ⟨Bool.eq_false_iff.mpr unsigned, pointless, fits⟩
      rw [value_pointless pointless fits, signed] at valued
      cases valued
      rw [Bool.not_true, if_neg Bool.false_ne_true]
      split <;> rfl
    · rw [value_pointed pointless fits] at valued
      obtain ⟨_, _, rfl⟩ := Option.map_eq_some_iff.mp valued
      rfl
  · exact value_long (not_lt.mp fits) valued

/-- A literal has a word for its value if it is one. -/
theorem toUInt64_valued (valued : numeral.value? = some number) (value : UInt64) :
    number.toUInt64? = some value ↔ Word numeral ∧ (digits numeral).toUInt64 = value := by
  by_cases word : Word numeral
  · cases valued.symm.trans word.value
    exact Option.some_inj.trans (and_iff_right word).symm
  · rw [wordless_value word valued]
    exact ⟨nofun, fun whole => absurd whole.1 word⟩

end Value

section Text
variable {text : List Char} {numeral : Numeral}

private theorem readWord_eq (plain : text.head? ≠ some '+') : VideoRecord.readWord? text =
    if text ≠ [] ∧ text.all Char.isDigit ∧ digitsValue text < Nat.pow 2 64 then some (digitsValue text).toUInt64
    else none := by
  cases text with
  | nil => rfl
  | cons c rest =>
    have other : c ≠ '+' := fun plus => plain (congrArg some plus)
    simp [VideoRecord.readWord?, other]

private theorem literal_plain (literal : Literal text numeral) : text.head? ≠ some '+' := by
  obtain ⟨c, rest, rfl, start⟩ := JsonTokens.readNumeral_start (readNumeral_whole.mpr literal)
  intro plus
  cases plus
  exact absurd start (by decide)

private theorem text_whole (literal : Literal text numeral) (unsigned : numeral.negative = false)
    (pointless : Pointless numeral) : text = numeral.whole ∧ digits numeral = digitsValue text := by
  have same : text = numeral.whole := by
    obtain ⟨_, fraction, exponent, fractional, powered, split⟩ := literal
    rw [pointless.1] at fractional
    rw [pointless.2] at powered
    cases fractional
    cases powered
    simpa [unsigned] using split
  exact ⟨same, same ▸ digits_whole pointless.1⟩

/-- A literal that is only digits has no sign, no point and no mark. -/
private theorem pointless_of_digits (literal : Literal text numeral) (all : Digits text) :
    numeral.negative = false ∧ Pointless numeral := by
  obtain ⟨_, fraction, exponent, fractional, powered, rfl⟩ := literal
  obtain ⟨negative, whole, fractionDigits, exponentDigits⟩ := numeral
  simp only [Digits, List.forall_mem_append] at all fractional powered ⊢
  obtain ⟨sign, _, point, mark⟩ := all
  have unsigned : negative = false := by
    cases negative with
    | false => rfl
    | true => exact absurd (sign '-' (List.mem_singleton_self _)) (by decide)
  refine ⟨unsigned, ?_, ?_⟩
  · cases fractional with
    | none => rfl
    | pointed => exact absurd (point '.' List.mem_cons_self) (by decide)
  · cases powered with
    | none => rfl
    | marked letter =>
      have plain := mark _ List.mem_cons_self
      rcases letter with rfl | rfl <;> exact absurd plain (by decide)

/-- A literal in quotes counts just if it is a word in digits. -/
theorem readWord_literal (literal : Literal text numeral) (value : UInt64) :
    VideoRecord.readWord? text = some value ↔ Word numeral ∧ (digits numeral).toUInt64 = value := by
  rw [readWord_eq (literal_plain literal), Option.ite_none_right_eq_some, Option.some_inj]
  constructor
  · rintro ⟨⟨_, all, fits⟩, same⟩
    obtain ⟨unsigned, pointless⟩ := pointless_of_digits literal (List.all_eq_true.mp all)
    obtain ⟨_, value⟩ := text_whole literal unsigned pointless
    exact ⟨⟨unsigned, pointless, value ▸ fits⟩, value ▸ same⟩
  · rintro ⟨⟨unsigned, pointless, fits⟩, same⟩
    obtain ⟨text, value⟩ := text_whole literal unsigned pointless
    rw [← value, text]
    exact ⟨⟨literal.whole.filled, List.all_eq_true.mpr literal.whole.digital, fits⟩, same⟩

private theorem numeric_piece {c : Char} (numeric : Numeric c) (rest : List Char) :
    readPieces? (c :: rest) = (readPieces? rest).map fun (pieces, rest) => (.plain c :: pieces, rest) := by
  have kept : c ≠ '"' ∧ c ≠ '\\' ∧ ¬ c.toNat < 0x20 := by
    rcases numeric with digit | member
    · have bounds : 48 ≤ c.toNat ∧ c.toNat ≤ 57 := Char.isDigit_iff_toNat.mp digit
      refine ⟨?_, ?_, by omega⟩ <;> (rintro rfl; exact absurd digit (by decide))
    · simp only [List.mem_cons, List.not_mem_nil, or_false] at member
      rcases member with rfl | rfl | rfl | rfl | rfl <;> decide
  obtain ⟨noQuote, noBackslash, visible⟩ := kept
  simp [readPieces?, noBackslash, visible]

/-- A literal in quotes is read as it stands. -/
private theorem readString_literal {text : String} (numeric : ∀ c ∈ text.toList, Numeric c) (rest : List Char) :
    readString? (text.toList ++ '"' :: rest) = some (some text, rest) := by
  have pieces (chars : List Char) (numeric : ∀ c ∈ chars, Numeric c) :
      readPieces? (chars ++ '"' :: rest) = some (chars.map .plain, rest) := by
    induction chars with
    | nil => rfl
    | cons c chars ih =>
      obtain ⟨first, others⟩ := List.forall_mem_cons.mp numeric
      rw [List.cons_append, numeric_piece first, ih others]
      rfl
  have joined (chars : List Char) : joinPieces? (chars.map .plain) = some chars := by
    induction chars with
    | nil => rfl
    | cons c chars ih => rw [List.map_cons, joinPieces?, ih, Option.map_some]
  rw [readString?, pieces _ numeric, Option.map_some]
  dsimp only
  rw [joined, Option.map_some, String.ofList_toList]

end Text

section Read
variable {text : String} {numeral : Numeral} {number : Number}

/-- A literal is read as its value, and between quotes as its text. -/
private theorem literal_read (literal : Literal text.toList numeral) (valued : numeral.value? = some number) :
    Decoder.ofText Decoder.json text = .ok (.number number) ∧
      Decoder.ofText Decoder.json ("\"" ++ text ++ "\"") = .ok (.string text) := by
  constructor
  · refine ObjectExtraction.ofText_ok.mpr ⟨_, [], .number (readNumeral_whole.mpr literal), rfl, ?_⟩
    rw [valued]
    rfl
  · have split : ("\"" ++ text ++ "\"").toList = '"' :: (text.toList ++ ['"']) := by simp
    refine ObjectExtraction.ofText_ok.mpr ⟨.string (some text), [], ?_, rfl, rfl⟩
    rw [split]
    exact .string (readString_literal literal.numeric [])

private theorem counter_quoted (literal : Literal text.toList numeral) (valued : numeral.value? = some number) :
    VideoRecord.counter (.string text) = number.toUInt64?.getD 0 := by
  have same : VideoRecord.readWord? text.toList = number.toUInt64? := by
    ext value
    exact (readWord_literal literal value).trans (toUInt64_valued valued value).symm
  rw [VideoRecord.counter, literal.trim, same]

/-- A bare number that is no word counts nothing just below 1. -/
private theorem counter_zero_iff (finite : number.toFloat.isFinite = true) (wordless : number.toUInt64? = none) :
    VideoRecord.counter (.number number) = 0 ↔ Float.lt number.toFloat 1.0 = true := by
  rw [← DoubleValue.value_isSome, Option.isSome_iff_exists] at finite
  obtain ⟨p, found⟩ := finite
  have above := DoubleValue.lt_iff WholeDoubles.value_zero found
  have below := DoubleValue.lt_iff found WholeDoubles.value_one
  have finite : number.toFloat.isFinite = true := by rw [← DoubleValue.value_isSome, found]; rfl
  simp only [VideoRecord.counter, wordless, finite, Bool.true_and]
  rw [below]
  split
  next positive =>
    have size := above.mp positive
    have word := WholeDoubles.toUInt64_eq found size.le
    rw [← UInt64.toNat_inj, word]
    have zero : (0 : UInt64).toNat = 0 := rfl
    rw [← Nat.floor_eq_zero, zero]
    omega
  next nothing =>
    have size : p ≤ 0 := not_lt.mp fun positive => nothing (above.mpr positive)
    exact iff_of_true rfl (size.trans_lt one_pos)

private theorem counters_agree_iff (literal : Literal text.toList numeral) (valued : numeral.value? = some number) :
    VideoRecord.counter (.number number) = VideoRecord.counter (.string text) ↔
      Word numeral ∨ Float.lt number.toFloat 1.0 = true := by
  have finite := TextValues.toFloat_finite (TextValues.numeral_proper valued)
  rw [counter_quoted literal valued]
  by_cases word : Word numeral
  · cases valued.symm.trans word.value
    exact iff_of_true rfl (.inl word)
  · have wordless := wordless_value word valued
    rw [or_iff_right word, wordless]
    exact counter_zero_iff finite wordless

end Read

section Length
variable {text : String} {numeral : Numeral} {number : Number}

/-- The literals whose double is found exactly: a zero, a word in digits, and up to 53 bits with a
power of ten that is a double. -/
inductive Exact (numeral : Numeral) : Prop where
  | nothing (zero : digits numeral = 0)
  | word (pointless : Pointless numeral) (fits : digits numeral < 2 ^ 64)
  | scaled (short : digits numeral < 2 ^ 53) (near : (power numeral).natAbs ≤ 22)

/-- The power of ten is applied as it is, unless it is so large that only its sign matters. -/
private theorem real_cases {size : Float}
    (real : Numeral.real? (digits numeral) (-(numeral.fraction.getD []).length) numeral.exponent = some size) :
    Numeral.scale? (digits numeral) (power numeral) = some size ∨
      size = 0.0 ∧ (digits numeral = 0 ∨ 22 < (power numeral).natAbs) := by
  cases known : numeral.exponent with
  | none =>
    have plain : power numeral = -(numeral.fraction.getD []).length := by
      rw [power, exponentValue, known]
      exact Int.zero_sub _
    rw [known] at real
    rw [plain]
    exact .inl real
  | some exponent =>
    obtain ⟨negative, run⟩ := exponent
    have bound : Nat.pow 2 31 = 2 ^ 31 := rfl
    have shifted : power numeral =
        (if negative then -(digitsValue run : Int) else digitsValue run) - (numeral.fraction.getD []).length := by
      rw [power, exponentValue, known]
    have arranged : (if negative then -((numeral.fraction.getD []).length : Int) - digitsValue run
        else -((numeral.fraction.getD []).length : Int) + digitsValue run) = power numeral := by
      rw [shifted]
      split <;> omega
    rw [known] at real
    simp only [Numeral.real?, arranged] at real
    split at real
    next => exact .inl real
    next large =>
      obtain ⟨accepted, same⟩ := Option.ite_none_left_eq_some.mp real
      refine .inr ⟨(Option.some.inj same).symm, ?_⟩
      by_cases zero : digits numeral = 0
      · exact .inl zero
      · have below : negative = true := by
          by_contra above
          exact accepted ⟨zero, by simpa using above⟩
        rw [shifted, if_pos below]
        omega

private theorem size_exact {size : Float} (exact : Exact numeral) (pointed : ¬ Pointless numeral)
    (real : Numeral.real? (digits numeral) (-(numeral.fraction.getD []).length) numeral.exponent = some size) :
    size = nearestSize numeral := by
  by_cases zero : digits numeral = 0
  · have nearest : nearestSize numeral = 0.0 := by
      rw [nearestSize, zero]
      rfl
    rw [nearest]
    rcases real_cases real with scaled | ⟨rfl, _⟩
    · rw [zero] at scaled
      exact scale_zero scaled
    · rfl
  · obtain ⟨short, near⟩ : digits numeral < 2 ^ 53 ∧ (power numeral).natAbs ≤ 22 := by
      cases exact with
      | nothing nothing => exact absurd nothing zero
      | word pointless => exact absurd pointless pointed
      | scaled short near => exact ⟨short, near⟩
    rcases real_cases real with scaled | ⟨_, nothing | far⟩
    · exact scale_exact zero short near scaled
    · exact absurd nothing zero
    · omega

private theorem toFloat_exact (valued : numeral.value? = some number) (exact : Exact numeral) :
    number.toFloat = if numeral.negative then -nearestSize numeral else nearestSize numeral := by
  have fits : digits numeral < 2 ^ 64 := by
    cases exact with
    | nothing | word | scaled => omega
  by_cases pointless : Pointless numeral
  · have nearest : nearestSize numeral = (digits numeral).toUInt64.toFloat := by
      have plain : power numeral = 0 := by
        rw [power, exponentValue, pointless.1, pointless.2]
        rfl
      rw [nearestSize, plain, ofDecimal_word fits]
    rw [value_pointless pointless fits] at valued
    cases valued
    rw [nearest]
    cases numeral.negative with
    | false => rfl
    | true =>
      rw [Bool.not_true, if_neg Bool.false_ne_true, if_pos rfl]
      split <;> rfl
  · rw [value_pointed pointless fits] at valued
    obtain ⟨size, real, rfl⟩ := Option.map_eq_some_iff.mp valued
    rw [size_exact exact pointless real]
    rfl

private theorem length_quoted (literal : Literal text.toList numeral) : VideoRecord.length? (.string text) =
    some (if numeral.negative then -nearestSize numeral else nearestSize numeral) := by
  rw [VideoRecord.length?, literal.trim, literal.read]

/-- What quotes make of a number. A counter in quotes counts just if it is a word in digits, so it
agrees with the bare one there and where that counts nothing either. A length in quotes is the
nearest double, so it agrees with the bare one where that is exact. -/
theorem read_in_quotes (literal : Literal text.toList numeral) (valued : numeral.value? = some number) :
    (Decoder.ofText Decoder.json text = .ok (.number number) ∧
        Decoder.ofText Decoder.json ("\"" ++ text ++ "\"") = .ok (.string text)) ∧
      VideoRecord.counter (.string text) = number.toUInt64?.getD 0 ∧
      (VideoRecord.counter (.number number) = VideoRecord.counter (.string text) ↔
        Word numeral ∨ Float.lt number.toFloat 1.0 = true) ∧
      VideoRecord.length? (.string text) =
        some (if numeral.negative then -nearestSize numeral else nearestSize numeral) ∧
      (Exact numeral → VideoRecord.length? (.number number) = VideoRecord.length? (.string text)) := by
  refine ⟨literal_read literal valued, counter_quoted literal valued, counters_agree_iff literal valued,
    length_quoted literal, fun exact => ?_⟩
  rw [length_quoted literal, VideoRecord.length?, toFloat_exact valued exact]

/-- A thousand with an exponent counts nothing in quotes, and is the same length. -/
theorem quoted_thousand_read :
    let numeral : Numeral := ⟨false, ['1'], none, some (false, ['3'])⟩
    let number : Number := .real 1000.0
    Literal "1e3".toList numeral ∧ numeral.value? = some number ∧ Exact numeral ∧
      VideoRecord.counter (.string "1e3") = 0 ∧
      VideoRecord.counter (.number number) ≠ VideoRecord.counter (.string "1e3") ∧
      VideoRecord.length? (.number number) = VideoRecord.length? (.string "1e3") := by
  intro numeral number
  have literal : Literal "1e3".toList numeral := readNumeral_whole.mp rfl
  have valued : numeral.value? = some number := by decide +kernel
  have exact : Exact numeral := .scaled (by decide) (by decide)
  obtain ⟨_, quoted, agree, _, same⟩ := read_in_quotes literal valued
  refine ⟨literal, valued, exact, quoted, fun counted => ?_, same exact⟩
  rcases agree.mp counted with word | small
  · exact absurd word.pointless.2 nofun
  · exact absurd small (by decide +kernel)

private theorem value_fraction {whole fraction : List Char} (fits : digits ⟨false, whole, some fraction, none⟩ < 2 ^ 64)
    (filled : 0 < fraction.length) (most : fraction.length ≤ 308) :
    Numeral.value? ⟨false, whole, some fraction, none⟩ = some (.real
      ((digits ⟨false, whole, some fraction, none⟩).toUInt64.toFloat / Numeral.powerOfTen fraction.length)) := by
  have pointed : ¬ Pointless ⟨false, whole, some fraction, none⟩ := fun pointless => by cases pointless.1
  rw [value_pointed pointed fits]
  change (Numeral.scale? _ (-(fraction.length : Int))).map _ = _
  rw [scale_down filled most]
  rfl

/-- A counter of twelve and a half, and a length with seventeen digits. -/
theorem quoted_fractions_differ :
    (∃ number, Decoder.ofText Decoder.json "12.5" = .ok (.number number) ∧
      Decoder.ofText Decoder.json "\"12.5\"" = .ok (.string "12.5") ∧
      VideoRecord.counter (.number number) = 12 ∧ VideoRecord.counter (.string "12.5") = 0) ∧
    ∃ number, Decoder.ofText Decoder.json "0.12345678901234567" = .ok (.number number) ∧
      Decoder.ofText Decoder.json "\"0.12345678901234567\"" = .ok (.string "0.12345678901234567") ∧
      VideoRecord.length? (.number number) ≠ VideoRecord.length? (.string "0.12345678901234567") := by
  constructor
  · have literal : Literal "12.5".toList ⟨false, ['1', '2'], some ['5'], none⟩ := readNumeral_whole.mp rfl
    obtain ⟨bare, quoted⟩ := literal_read literal (value_fraction (by decide) (by decide) (by decide))
    exact ⟨_, bare, quoted, by decide +kernel, by decide +kernel⟩
  · have literal : Literal "0.12345678901234567".toList ⟨false, ['0'], some "12345678901234567".toList, none⟩ :=
      readNumeral_whole.mp rfl
    obtain ⟨bare, quoted⟩ := literal_read literal (value_fraction (by decide +kernel) (by decide) (by decide))
    exact ⟨_, bare, quoted, by decide +kernel⟩

end Length

end ClipRank.Proofs.QuotedNumbers
