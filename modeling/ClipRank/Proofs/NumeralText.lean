import Mathlib.Data.List.Basic
import ClipRank.Proofs.JsonReading
import ClipRank.Proofs.NumberText
import ClipRank.Text.Blank

/-! The number literals of JSON as a grammar, apart from how they are read: an optional
minus, a whole part with no needless zero, and optionally a fraction and an exponent. Every
literal also denotes a double as plain text, with the same digits and the same power of ten. -/

namespace ClipRank.Proofs.NumeralText
open Json JsonTokens NumberText
open Binary64 (digitsValue)

structure WholeText (digits : List Char) : Prop where
  filled : digits ≠ []
  digital : Digits digits
  /-- A zero at the start is the only digit. -/
  needed : ¬ (digits.head? = some '0' ∧ 1 < digits.length)

inductive FractionText : List Char → Option (List Char) → Prop where
  | none : FractionText [] none
  | pointed {digits} (filled : digits ≠ []) (digital : Digits digits) : FractionText ('.' :: digits) (some digits)

inductive ExponentText : List Char → Option (Bool × List Char) → Prop where
  | none : ExponentText [] none
  | marked {mark sign negative digits} (letter : mark = 'e' ∨ mark = 'E') (signed : SignText sign negative)
      (filled : digits ≠ []) (digital : Digits digits) : ExponentText (mark :: (sign ++ digits)) (some (negative, digits))

/-- The text is a number literal with the given parts. -/
structure Literal (text : List Char) (numeral : Numeral) : Prop where
  whole : WholeText numeral.whole
  parts : ∃ fraction exponent, FractionText fraction numeral.fraction ∧ ExponentText exponent numeral.exponent ∧
    text = (if numeral.negative then ['-'] else []) ++ (numeral.whole ++ (fraction ++ exponent))

/-- The digits of a literal as one number, without the point. -/
def digits (numeral : Numeral) : Nat :=
  digitsValue (numeral.whole ++ numeral.fraction.getD [])

theorem digits_whole {numeral : Numeral} (fraction : numeral.fraction = none) :
    digits numeral = digitsValue numeral.whole := by
  rw [digits, fraction]
  exact congrArg digitsValue (List.append_nil _)

/-- The number after the mark of a literal. -/
def exponentValue (numeral : Numeral) : Int :=
  match numeral.exponent with
  | none => 0
  | some (negative, digits) => if negative then -digitsValue digits else digitsValue digits

/-- The power of ten that the last digit of a literal counts. -/
def power (numeral : Numeral) : Int :=
  exponentValue numeral - (numeral.fraction.getD []).length

section Reading

variable {text rest : List Char} {numeral : Numeral} {fraction : Option (List Char)} {exponent : Option (Bool × List Char)}

private theorem readFraction_split (found : readNumeral?.readFraction? text = some (fraction, rest)) :
    ∃ read, text = read ++ rest ∧ FractionText read fraction := by
  unfold readNumeral?.readFraction? at found
  split at found
  next text =>
    obtain ⟨digits, after, rfl, digital, ends⟩ := digits_split text
    obtain ⟨taken, dropped⟩ := digits_end digital ends
    simp only [taken, dropped] at found
    obtain ⟨filled, same⟩ := Option.ite_none_left_eq_some.mp found
    cases same
    exact ⟨'.' :: digits, rfl, .pointed filled digital⟩
  next =>
    cases found
    exact ⟨[], rfl, .none⟩

private theorem readPower_split (found : readNumeral?.readPower? text = some (exponent, [])) :
    ExponentText text exponent := by
  unfold readNumeral?.readPower? at found
  split at found
  next => cases found; exact .none
  next mark text =>
    dsimp only at found
    split at found
    next letter =>
      cases split : Binary64.splitSign text with
      | mk negative rest =>
      obtain ⟨sign, rfl, signed, _⟩ := splitSign_iff.mp split
      obtain ⟨digits, after, rfl, digital, ends⟩ := digits_split rest
      obtain ⟨taken, dropped⟩ := digits_end digital ends
      simp only [split, taken, dropped] at found
      obtain ⟨filled, same⟩ := Option.ite_none_left_eq_some.mp found
      cases same
      rw [List.append_nil]
      exact .marked letter signed filled digital
    next => cases found

private theorem readFraction_text (fractional : FractionText text fraction)
    (ends : ∀ c ∈ rest.head?, c.isDigit = false ∧ c ≠ '.') :
    readNumeral?.readFraction? (text ++ rest) = some (fraction, rest) := by
  cases fractional with
  | none =>
    cases rest with
    | nil => rfl
    | cons c rest => simp [readNumeral?.readFraction?, (ends c rfl).2]
  | pointed filled digital =>
    obtain ⟨taken, dropped⟩ := digits_end digital fun c head => (ends c head).1
    simp [readNumeral?.readFraction?, taken, dropped, filled]

private theorem readPower_text (powered : ExponentText text exponent) :
    readNumeral?.readPower? text = some (exponent, []) := by
  cases powered with
  | none => rfl
  | @marked mark sign negative digits letter signed filled digital =>
    have split := splitSign_iff.mpr ⟨sign, rfl, signed, fun _ => digit_head digital⟩
    have run : (digits ++ []).takeWhile Char.isDigit = digits ∧ (digits ++ []).dropWhile Char.isDigit = [] :=
      digits_end digital nofun
    rw [List.append_nil] at run
    obtain ⟨taken, dropped⟩ := run
    simp [readNumeral?.readPower?, letter, split, taken, dropped, filled]

private theorem exponent_head (powered : ExponentText text exponent) :
    ∀ c ∈ text.head?, c.isDigit = false ∧ c ≠ '.' := by
  cases powered with
  | none => exact nofun
  | marked letter => rcases letter with rfl | rfl <;> simp

private theorem fraction_head (fractional : FractionText text fraction)
    (ends : ∀ c ∈ rest.head?, c.isDigit = false) : ∀ c ∈ (text ++ rest).head?, c.isDigit = false := by
  cases fractional with
  | none => exact ends
  | pointed => simp

private theorem minus_split (text : List Char) :
    text = (if decide (text.head? = some '-') then ['-'] else []) ++ unsigned text := by
  cases text with
  | nil => rfl
  | cons c rest =>
    by_cases minus : c = '-'
    · subst minus
      rfl
    · simp [unsigned, minus]

private theorem minus_text (negative : Bool) (plain : text.head? ≠ some '-') :
    unsigned ((if negative then ['-'] else []) ++ text) = text ∧
      decide (((if negative then ['-'] else []) ++ text).head? = some '-') = negative := by
  cases negative with
  | true => exact ⟨rfl, rfl⟩
  | false =>
    refine ⟨?_, decide_eq_false plain⟩
    change unsigned text = text
    unfold unsigned
    split
    next => exact absurd rfl plain
    next => rfl

/-- The reader takes a text for a number as a whole just where the grammar has it. -/
theorem readNumeral_whole : readNumeral? text = some (numeral, []) ↔ Literal text numeral := by
  rw [readNumeral_iff]
  dsimp only
  constructor
  · rintro ⟨accepted, fraction, middle, exponent, fractionRead, exponentRead, rfl⟩
    have minus := minus_split text
    obtain ⟨whole, after, split, digital, ends⟩ := digits_split (unsigned text)
    obtain ⟨taken, dropped⟩ := digits_end digital ends
    rw [split, taken] at accepted ⊢
    rw [split, dropped] at fractionRead
    obtain ⟨read, rfl, fractional⟩ := readFraction_split fractionRead
    obtain ⟨filled, needed⟩ := not_or.mp accepted
    exact ⟨⟨filled, digital, needed⟩, read, middle, fractional, readPower_split exponentRead, split ▸ minus⟩
  · rintro ⟨⟨filled, digital, needed⟩, fraction, exponent, fractional, powered, rfl⟩
    obtain ⟨negative, whole, fractionDigits, exponentDigits⟩ := numeral
    dsimp only at filled digital needed fractional powered ⊢
    have ends := fraction_head fractional fun c head => (exponent_head powered c head).1
    obtain ⟨taken, dropped⟩ := digits_end digital ends
    have plain : (whole ++ (fraction ++ exponent)).head? ≠ some '-' := by
      intro minus
      rw [List.head?_append_of_ne_nil _ filled] at minus
      exact (digit_head digital _ minus).1 rfl
    obtain ⟨bare, sign⟩ := minus_text negative plain
    rw [bare, sign, taken, dropped]
    exact ⟨not_or.mpr ⟨filled, needed⟩, _, _, _, readFraction_text fractional (exponent_head powered),
      readPower_text powered, rfl⟩

end Reading

section Plain

variable {text : List Char} {numeral : Numeral} {fraction : Option (List Char)} {exponent : Option (Bool × List Char)}

/-- The characters of number literals. -/
def Numeric (c : Char) : Prop :=
  c.isDigit = true ∨ c ∈ ['-', '+', '.', 'e', 'E']

private theorem numeric_sign {negative : Bool} (signed : SignText text negative) : ∀ c ∈ text, Numeric c := by
  cases signed with
  | none => exact nofun
  | plus | minus => simp [Numeric]

private theorem numeric_fraction (fractional : FractionText text fraction) : ∀ c ∈ text, Numeric c := by
  cases fractional with
  | none => exact nofun
  | pointed filled digital => exact List.forall_mem_cons.mpr ⟨by simp [Numeric], fun c member => .inl (digital c member)⟩

private theorem numeric_exponent (powered : ExponentText text exponent) : ∀ c ∈ text, Numeric c := by
  cases powered with
  | none => exact nofun
  | @marked mark sign negative digits letter signed filled digital =>
    have numeric : Numeric mark := .inr (by rcases letter with rfl | rfl <;> simp)
    refine List.forall_mem_cons.mpr ⟨numeric, List.forall_mem_append.mpr ⟨numeric_sign signed, ?_⟩⟩
    exact fun c member => .inl (digital c member)

theorem Literal.numeric (literal : Literal text numeral) : ∀ c ∈ text, Numeric c := by
  obtain ⟨⟨_, digital, _⟩, fraction, exponent, fractional, powered, rfl⟩ := literal
  have sign : ∀ c ∈ if numeral.negative then ['-'] else [], Numeric c := by
    cases numeral.negative <;> simp [Numeric]
  simp only [List.forall_mem_append]
  exact ⟨sign, fun c member => .inl (digital c member), numeric_fraction fractional, numeric_exponent powered⟩

private theorem numeric_solid {c : Char} (numeric : Numeric c) : Text.isBlank c = false := by
  rcases numeric with digit | member
  · have bounds : 48 ≤ c.toNat ∧ c.toNat ≤ 57 := Char.isDigit_iff_toNat.mp digit
    refine List.any_eq_false.mpr fun range known => ?_
    simp only [Text.blankRanges, List.mem_cons, List.not_mem_nil, or_false] at known
    rcases known with rfl | rfl | rfl | rfl | rfl | rfl | rfl | rfl | rfl | rfl <;> simp <;> omega
  · simp only [List.mem_cons, List.not_mem_nil, or_false] at member
    rcases member with rfl | rfl | rfl | rfl | rfl <;> decide

/-- A text without blanks is its own trimmed form. -/
private theorem trim_solid {text : String} (solid : ∀ c ∈ text.toList, Text.isBlank c = false) : Text.trim text = text := by
  have kept {text : List Char} (solid : ∀ c ∈ text, Text.isBlank c = false) : text.dropWhile Text.isBlank = text := by
    cases text with
    | nil => rfl
    | cons c rest => exact List.dropWhile_cons_of_neg (by simp [solid c List.mem_cons_self])
  have reversed : ∀ c ∈ text.toList.reverse, Text.isBlank c = false := fun c member => solid c (List.mem_reverse.mp member)
  rw [Text.trim, Text.trimStart, Text.trimEnd, kept solid, kept reversed, List.reverse_reverse, String.ofList_toList]

theorem Literal.trim {text : String} (literal : Literal text.toList numeral) : Text.trim text = text :=
  trim_solid fun c member => numeric_solid (literal.numeric c member)

end Plain

section Denotes

variable {numeral : Numeral}

/-- The double nearest to the size of a literal. -/
def nearestSize (numeral : Numeral) : Float :=
  Binary64.ofDecimal (digits numeral) (power numeral)

private theorem exponent_powered {text : List Char} {exponent : Option (Bool × List Char)}
    (powered : ExponentText text exponent) (same : numeral.exponent = exponent) :
    PowerText text (exponentValue numeral) := by
  unfold exponentValue
  rw [same]
  cases powered with
  | none => exact .none
  | marked letter signed filled digital => exact .marked letter signed filled digital

/-- What a literal denotes as plain text. -/
theorem Literal.read {text : String} (literal : Literal text.toList numeral) :
    Binary64.read? text = some (if numeral.negative then -nearestSize numeral else nearestSize numeral) := by
  obtain ⟨⟨filled, digital, _⟩, fraction, exponent, fractional, powered, split⟩ := literal
  have sign : SignText (if numeral.negative then ['-'] else []) numeral.negative := by
    cases numeral.negative
    · exact .none
    · exact .minus
  have exponentText := exponent_powered powered rfl
  refine read_iff.mpr (.signed split sign (.decimal ?_))
  unfold nearestSize digits power
  cases known : numeral.fraction with
  | none =>
    rw [known] at fractional
    cases fractional
    simpa using DecimalText.whole filled digital exponentText
  | some fractionDigits =>
    rw [known] at fractional
    cases fractional with
    | pointed _ fractionDigital => exact .pointed (.inl filled) digital fractionDigital exponentText

end Denotes

end ClipRank.Proofs.NumeralText
