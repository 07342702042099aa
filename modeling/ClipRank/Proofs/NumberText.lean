import Mathlib.Data.List.TakeWhile
import ClipRank.Binary64.Numeral

/-! The texts that denote doubles, as a grammar, apart from how they are read: a sign,
then a word or digits with an optional point and an optional power of ten. The reader
accepts these texts and no others. -/

namespace ClipRank.Proofs.NumberText
open Binary64

inductive SignText : List Char → Bool → Prop where
  | none : SignText [] false
  | plus : SignText ['+'] false
  | minus : SignText ['-'] true

def Digits (text : List Char) : Prop := ∀ c ∈ text, c.isDigit = true

/-- The text of a power of ten, which may be left out. -/
inductive PowerText : List Char → Int → Prop where
  | none : PowerText [] 0
  | marked {mark sign negative digits} (letter : mark = 'e' ∨ mark = 'E') (signed : SignText sign negative)
      (filled : digits ≠ []) (digital : Digits digits) :
      PowerText (mark :: (sign ++ digits)) (if negative then -digitsValue digits else digitsValue digits)

/-- The text of a decimal without its sign. -/
inductive DecimalText : List Char → Float → Prop where
  | whole {whole power exponent} (filled : whole ≠ []) (digital : Digits whole) (powered : PowerText power exponent) :
      DecimalText (whole ++ power) (ofDecimal (digitsValue whole) exponent)
  | pointed {whole fraction power exponent} (filled : whole ≠ [] ∨ fraction ≠ []) (digital : Digits whole)
      (fractional : Digits fraction) (powered : PowerText power exponent) :
      DecimalText (whole ++ '.' :: (fraction ++ power))
        (ofDecimal (digitsValue (whole ++ fraction)) (exponent - fraction.length))

/-- The text of a double without its sign. Words can have capitals. -/
inductive SizeText : List Char → Float → Prop where
  | infinity {text} (word : text.map Char.toLower = "inf".toList ∨ text.map Char.toLower = "infinity".toList) :
      SizeText text infinity
  | nan {text} (word : text.map Char.toLower = "nan".toList) : SizeText text nan
  | decimal {text size} (decimal : DecimalText text size) : SizeText text size

/-- The text denotes the double. -/
inductive Denotes (text : String) : Float → Prop where
  | signed {sign negative rest size} (split : text.toList = sign ++ rest) (signed : SignText sign negative)
      (sized : SizeText rest size) : Denotes text (if negative then -size else size)

theorem digits_end {digits rest : List Char} (digital : Digits digits)
    (ends : ∀ c ∈ rest.head?, c.isDigit = false) :
    (digits ++ rest).takeWhile Char.isDigit = digits ∧ (digits ++ rest).dropWhile Char.isDigit = rest := by
  induction digits with
  | nil =>
    cases rest with
    | nil => exact ⟨rfl, rfl⟩
    | cons c rest => simp [ends c (by simp)]
  | cons c digits ih =>
    obtain ⟨digit, others⟩ := List.forall_mem_cons.mp digital
    simpa [digit] using ih others

/-- Any text is digits followed by what does not begin with one. -/
theorem digits_split (text : List Char) :
    ∃ digits rest, text = digits ++ rest ∧ Digits digits ∧ ∀ c ∈ rest.head?, c.isDigit = false := by
  refine ⟨text.takeWhile Char.isDigit, text.dropWhile Char.isDigit, List.takeWhile_append_dropWhile.symm,
    List.all_eq_true.mp List.all_takeWhile, fun c head => ?_⟩
  have ends := List.head?_dropWhile_not Char.isDigit text
  rw [Option.mem_def.mp head] at ends
  exact ends

theorem splitSign_iff {text rest : List Char} {negative : Bool} :
    splitSign text = (negative, rest) ↔
      ∃ sign, text = sign ++ rest ∧ SignText sign negative ∧ (sign = [] → ∀ c ∈ rest.head?, c ≠ '-' ∧ c ≠ '+') := by
  constructor
  · intro split
    unfold splitSign at split
    split at split
    · cases split
      exact ⟨['-'], rfl, .minus, fun none => by cases none⟩
    · cases split
      exact ⟨['+'], rfl, .plus, fun none => by cases none⟩
    next noMinus noPlus =>
      cases split
      refine ⟨[], rfl, .none, fun _ c head => ⟨?_, ?_⟩⟩
      · rintro rfl
        obtain ⟨others, rfl⟩ := List.head?_eq_some_iff.mp head
        exact noMinus _ rfl
      · rintro rfl
        obtain ⟨others, rfl⟩ := List.head?_eq_some_iff.mp head
        exact noPlus _ rfl
  · rintro ⟨sign, rfl, signed, unsigned⟩
    cases signed with
    | plus | minus => rfl
    | none =>
      cases rest with
      | nil => rfl
      | cons c rest =>
        obtain ⟨noMinus, noPlus⟩ := unsigned rfl c rfl
        simp [splitSign, noMinus, noPlus]

theorem digit_head {digits : List Char} (digital : Digits digits) : ∀ c ∈ digits.head?, c ≠ '-' ∧ c ≠ '+' := by
  intro c head
  have digit := digital c (List.mem_of_mem_head? head)
  constructor <;> (rintro rfl; exact absurd digit (by decide))

private theorem readExponent_iff {text : List Char} {exponent : Int} :
    readExponent? text = some exponent ↔ PowerText text exponent := by
  constructor
  · intro found
    cases text with
    | nil => cases found; exact .none
    | cons mark rest =>
      cases split : splitSign rest with
      | mk negative digits =>
        obtain ⟨sign, rfl, signed, _⟩ := splitSign_iff.mp split
        simp only [readExponent?, split] at found
        split at found
        next accepted =>
          cases found
          exact .marked accepted.1 signed accepted.2.1 (List.all_eq_true.mp accepted.2.2)
        next => cases found
  · intro power
    cases power with
    | none => rfl
    | marked letter signed filled digital =>
      rename_i sign negative digits
      have split := splitSign_iff.mpr ⟨sign, rfl, signed, fun _ => digit_head digital⟩
      simp only [readExponent?, split]
      rw [if_pos ⟨letter, filled, List.all_eq_true.mpr digital⟩]

private theorem power_head {text : List Char} {exponent : Int} (power : PowerText text exponent) :
    ∀ c ∈ text.head?, c.isDigit = false ∧ c ≠ '.' := by
  cases power with
  | none => simp
  | marked letter => rcases letter with rfl | rfl <;> simp

private theorem readMagnitude_whole {whole rest : List Char} (digital : Digits whole)
    (ends : ∀ c ∈ rest.head?, c.isDigit = false ∧ c ≠ '.') :
    readMagnitude? (whole ++ rest) =
      if whole = [] then none else (readExponent? rest).map (ofDecimal (digitsValue whole)) := by
  obtain ⟨taken, dropped⟩ := digits_end digital fun c head => (ends c head).1
  unfold readMagnitude?
  rw [taken, dropped]
  cases rest with
  | nil => simp
  | cons c rest =>
    have noPoint := (ends c rfl).2
    simp [noPoint]

private theorem readMagnitude_pointed {whole fraction rest : List Char} (digital : Digits whole)
    (fractional : Digits fraction) (ends : ∀ c ∈ rest.head?, c.isDigit = false) :
    readMagnitude? (whole ++ '.' :: (fraction ++ rest)) =
      if whole = [] ∧ fraction = [] then none
      else (readExponent? rest).map fun exponent =>
        ofDecimal (digitsValue (whole ++ fraction)) (exponent - fraction.length) := by
  have point : ∀ c ∈ ('.' :: (fraction ++ rest)).head?, c.isDigit = false := by simp
  obtain ⟨taken, dropped⟩ := digits_end digital point
  obtain ⟨fractionTaken, fractionDropped⟩ := digits_end fractional ends
  unfold readMagnitude?
  rw [taken, dropped]
  simp [fractionTaken, fractionDropped]

private theorem readMagnitude_iff {text : List Char} {size : Float} :
    readMagnitude? text = some size ↔ DecimalText text size := by
  constructor
  · intro found
    obtain ⟨whole, rest, rfl, digital, ends⟩ := digits_split text
    by_cases pointed : rest.head? = some '.'
    · obtain ⟨others, rfl⟩ := List.head?_eq_some_iff.mp pointed
      obtain ⟨fraction, power, rfl, fractional, stops⟩ := digits_split others
      rw [readMagnitude_pointed digital fractional stops] at found
      split at found
      · cases found
      next filled =>
        obtain ⟨exponent, powered, rfl⟩ := Option.map_eq_some_iff.mp found
        exact .pointed (Classical.not_and_iff_not_or_not.mp filled) digital fractional (readExponent_iff.mp powered)
    · rw [readMagnitude_whole digital fun c head => ⟨ends c head, fun same => pointed (same ▸ head)⟩] at found
      split at found
      · cases found
      next filled =>
        obtain ⟨exponent, powered, rfl⟩ := Option.map_eq_some_iff.mp found
        exact .whole filled digital (readExponent_iff.mp powered)
  · intro decimal
    cases decimal with
    | whole filled digital powered =>
      rw [readMagnitude_whole digital (power_head powered), if_neg filled, readExponent_iff.mpr powered]
      rfl
    | pointed filled digital fractional powered =>
      rw [readMagnitude_pointed digital fractional fun c head => (power_head powered c head).1,
        if_neg fun empty => filled.elim (· empty.1) (· empty.2), readExponent_iff.mpr powered]
      rfl

/-- A decimal begins with a digit or the point, so it is neither signed nor a word. -/
private theorem decimal_head {text : List Char} {size : Float} (decimal : DecimalText text size) :
    ∃ c rest, text = c :: rest ∧ (c.isDigit = true ∨ c = '.') := by
  have start {whole : List Char} (filled : whole ≠ []) (digital : Digits whole) (rest : List Char) :
      ∃ c others, whole ++ rest = c :: others ∧ (c.isDigit = true ∨ c = '.') := by
    obtain ⟨c, others, rfl⟩ := List.exists_cons_of_ne_nil filled
    exact ⟨c, others ++ rest, rfl, Or.inl (digital c List.mem_cons_self)⟩
  cases decimal with
  | whole filled digital => exact start filled digital _
  | @pointed whole _ _ _ filled digital =>
    by_cases empty : whole = []
    · subst empty
      exact ⟨'.', _, rfl, Or.inr rfl⟩
    · exact start empty digital _

private theorem toLower_start {c : Char} (start : c.isDigit = true ∨ c = '.') : c.toLower = c := by
  have small : ¬ (c.val ≥ 'A'.val ∧ c.val ≤ 'Z'.val) := by
    rcases start with digit | rfl
    · simp only [Char.isDigit, Bool.and_eq_true, decide_eq_true_eq, ge_iff_le, UInt32.le_iff_toNat_le] at digit ⊢
      simp at digit ⊢
      omega
    · decide
  exact dif_neg small

private theorem decimal_wordless {text : List Char} {size : Float} (decimal : DecimalText text size) :
    text.map Char.toLower ≠ "inf".toList ∧ text.map Char.toLower ≠ "infinity".toList ∧
      text.map Char.toLower ≠ "nan".toList := by
  obtain ⟨c, rest, rfl, start⟩ := decimal_head decimal
  rw [List.map_cons, toLower_start start]
  refine ⟨fun same => ?_, fun same => ?_, fun same => ?_⟩ <;>
    (simp at same; obtain ⟨rfl, _⟩ := same; exact absurd start (by decide))

private theorem size_unsigned {text : List Char} {size : Float} (sized : SizeText text size) :
    ∀ c ∈ text.head?, c ≠ '-' ∧ c ≠ '+' := by
  intro c head
  obtain ⟨rest, rfl⟩ := List.head?_eq_some_iff.mp head
  cases sized with
  | infinity word =>
    rcases word with same | same <;> constructor <;> (rintro rfl; simp at same)
  | nan word => constructor <;> (rintro rfl; simp at word)
  | decimal decimal =>
    obtain ⟨first, others, same, start⟩ := decimal_head decimal
    cases same
    constructor <;> (rintro rfl; exact absurd start (by decide))

private theorem size_iff {text : List Char} {size : Float} :
    (if String.ofList (text.map Char.toLower) = "inf" ∨ String.ofList (text.map Char.toLower) = "infinity" then
        some infinity
      else if String.ofList (text.map Char.toLower) = "nan" then some nan
      else readMagnitude? text) = some size ↔ SizeText text size := by
  have same (word : String) : String.ofList (text.map Char.toLower) = word ↔ text.map Char.toLower = word.toList :=
    ⟨fun same => same ▸ String.toList_ofList.symm, fun same => by rw [same, String.ofList_toList]⟩
  simp only [same]
  constructor
  · intro found
    split at found
    next word => cases found; exact .infinity word
    next =>
      split at found
      next word => cases found; exact .nan word
      next => exact .decimal (readMagnitude_iff.mp found)
  · intro sized
    cases sized with
    | infinity word => rw [if_pos word]
    | nan word =>
      rw [if_neg (by rw [word]; decide), if_pos word]
    | decimal decimal =>
      obtain ⟨short, long, nan⟩ := decimal_wordless decimal
      rw [if_neg (not_or.mpr ⟨short, long⟩), if_neg nan, readMagnitude_iff.mpr decimal]

/-- The reader takes a text for the double that it denotes, and refuses every text
that denotes none. -/
theorem read_iff {text : String} {x : Float} : read? text = some x ↔ Denotes text x := by
  constructor
  · intro found
    cases split : splitSign text.toList with
    | mk negative rest =>
      obtain ⟨sign, same, signed, _⟩ := splitSign_iff.mp split
      simp only [read?, split] at found
      obtain ⟨size, sized, rfl⟩ := Option.map_eq_some_iff.mp found
      exact .signed same signed (size_iff.mp sized)
  · intro denotes
    cases denotes with
    | signed same signed sized =>
      have split := splitSign_iff.mpr ⟨_, same, signed, fun _ => size_unsigned sized⟩
      simp only [read?, split, size_iff.mpr sized, Option.map_some]

end ClipRank.Proofs.NumberText
