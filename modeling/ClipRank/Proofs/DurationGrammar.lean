import Mathlib.Algebra.Ring.Nat
import Mathlib.Logic.Function.Basic
import ClipRank.Duration
import ClipRank.Binary64.Numeral

/-! Durations as text. A duration has a run of digits for each of its units, all of them
optional, and its length is the sum of what the runs count, capped once. A run that counts
past a word is read as nothing, so a larger number can make a duration shorter. -/

namespace ClipRank.Proofs.DurationGrammar
open Duration Binary64

inductive Part where
  | days
  | hours
  | minutes
  | seconds
deriving DecidableEq

namespace Part

def letter : Part → Char
  | days => 'D'
  | hours => 'H'
  | minutes => 'M'
  | seconds => 'S'

/-- The seconds in one of the unit. -/
def size : Part → Nat
  | days => 86400
  | hours => 3600
  | minutes => 60
  | seconds => 1

/-- A run of digits before its letter, or nothing if there is no run. -/
def text (part : Part) (run : List Char) : List Char :=
  if run = [] then [] else run ++ [part.letter]

end Part

/-- The text of a duration with the given runs, where an empty run stands for a part that is
left out. The mark before the hours can be left out as well. -/
def durationText (marked : Bool) (runs : Part → List Char) : List Char :=
  'P' :: (Part.days.text (runs .days) ++ ((if marked then ['T'] else []) ++ (Part.hours.text (runs .hours) ++
    (Part.minutes.text (runs .minutes) ++ Part.seconds.text (runs .seconds)))))

/-- The text is a duration with the given runs of digits. -/
structure Shaped (digit : Char → Bool) (text : List Char) (runs : Part → List Char) : Prop where
  digital : ∀ part, ∀ c ∈ runs part, digit c = true
  spelled : ∃ marked, text = durationText marked runs

section Reading

variable {part : Part} {run rest text : List Char}

private theorem letter_plain (part : Part) : Text.isDecimalDigit part.letter = false := by
  cases part <;> decide +kernel

private theorem mark_plain : Text.isDecimalDigit 'T' = false := by
  decide +kernel

/-- What ends the digits at the start of a text. -/
def stop (text : List Char) : Option Char :=
  (text.dropWhile Text.isDecimalDigit).head?

theorem stop_plain {c : Char} (plain : Text.isDecimalDigit c = false) (digital : ∀ c ∈ run, Text.isDecimalDigit c = true)
    (rest : List Char) : stop (run ++ c :: rest) = some c := by
  rw [stop, List.dropWhile_append_of_pos digital, List.dropWhile_cons_of_neg (by simp [plain])]
  rfl

theorem stop_part {c : Char} (digital : ∀ c ∈ run, Text.isDecimalDigit c = true) (letter : part.letter ≠ c)
    (later : stop rest ≠ some c) : stop (part.text run ++ rest) ≠ some c := by
  unfold Part.text
  split
  · exact later
  · rw [List.append_assoc, List.singleton_append, stop_plain (letter_plain part) digital]
    exact fun same => letter (Option.some.inj same)

/-- A part of a duration is read up to its letter, also one that is left out. -/
theorem readPart_text (digital : ∀ c ∈ run, Text.isDecimalDigit c = true) (others : stop rest ≠ some part.letter) :
    readPart part.letter (part.text run ++ rest) = (runValue run, rest) := by
  by_cases empty : run = []
  · subst empty
    change readPart part.letter rest = (0, rest)
    unfold readPart
    split
    next c after dropped =>
      have other : c ≠ part.letter := by
        rintro rfl
        exact others (congrArg List.head? dropped)
      exact if_neg fun taken => other taken.2
    next => rfl
  · have noDigit : ¬ Text.isDecimalDigit part.letter = true := by simp [letter_plain]
    unfold readPart Part.text
    rw [if_neg empty, List.append_assoc, List.dropWhile_append_of_pos digital, List.takeWhile_append_of_pos digital,
      List.singleton_append, List.dropWhile_cons_of_neg noDigit, List.takeWhile_cons_of_neg noDigit, List.append_nil]
    exact if_pos ⟨empty, rfl⟩

/-- A text is read as the part that it begins with. -/
theorem readPart_split (part : Part) (text : List Char) :
    ∃ run rest, (∀ c ∈ run, Text.isDecimalDigit c = true) ∧ text = part.text run ++ rest ∧
      readPart part.letter text = (runValue run, rest) := by
  have absent : ∃ run rest, (∀ c ∈ run, Text.isDecimalDigit c = true) ∧ text = part.text run ++ rest ∧
      (0, text) = (runValue run, rest) := ⟨[], text, List.forall_mem_nil _, rfl, rfl⟩
  unfold readPart
  dsimp only
  split
  next c rest dropped =>
    split
    next taken =>
      obtain ⟨filled, rfl⟩ := taken
      refine ⟨_, rest, List.all_eq_true.mp List.all_takeWhile, ?_, rfl⟩
      rw [Part.text, if_neg filled, List.append_assoc, List.singleton_append, ← dropped, List.takeWhile_append_dropWhile]
    next => exact absent
  next => exact absent

/-- What follows the mark before the hours, if the mark is there. -/
private def unmarked : List Char → List Char
  | 'T' :: rest => rest
  | rest => rest

private theorem read_eq (text : List Char) : Duration.read? ('P' :: text) =
    let (days, rest) := readPart Part.days.letter text
    let (hours, rest) := readPart Part.hours.letter (unmarked rest)
    let (minutes, rest) := readPart Part.minutes.letter rest
    let (secs, rest) := readPart Part.seconds.letter rest
    if rest = [] then some (Duration.seconds days hours minutes secs) else none := by
  rfl

private theorem unmarked_split (text : List Char) :
    ∃ marked : Bool, text = (if marked then ['T'] else []) ++ unmarked text := by
  unfold unmarked
  split
  · exact ⟨true, rfl⟩
  · exact ⟨false, rfl⟩

private theorem unmarked_append (marked : Bool) (others : stop rest ≠ some 'T') :
    unmarked ((if marked then ['T'] else []) ++ rest) = rest := by
  cases marked with
  | true => rfl
  | false =>
    change unmarked rest = rest
    unfold unmarked
    split
    next after =>
      have ends : stop ([] ++ 'T' :: after) = some 'T' := stop_plain mark_plain (List.forall_mem_nil _) after
      exact absurd ends others
    next => rfl

/-- The four runs of a duration. -/
def runsOf (days hours minutes seconds : List Char) : Part → List Char
  | .days => days
  | .hours => hours
  | .minutes => minutes
  | .seconds => seconds

variable {runs : Part → List Char}

/-- The seconds that the runs are read as. -/
def readSeconds (runs : Part → List Char) : Nat :=
  Duration.seconds (runValue (runs .days)) (runValue (runs .hours)) (runValue (runs .minutes)) (runValue (runs .seconds))

private theorem read_split {length : Nat} (found : Duration.read? ('P' :: text) = some length) :
    ∃ runs, Shaped Text.isDecimalDigit ('P' :: text) runs ∧ length = readSeconds runs := by
  obtain ⟨days, marked, daysDigital, rfl, daysRead⟩ := readPart_split .days text
  obtain ⟨mark, unmarkedSplit⟩ := unmarked_split marked
  obtain ⟨hours, rest, hoursDigital, hoursSplit, hoursRead⟩ := readPart_split .hours (unmarked marked)
  obtain ⟨minutes, last, minutesDigital, rfl, minutesRead⟩ := readPart_split .minutes rest
  obtain ⟨seconds, after, secondsDigital, rfl, secondsRead⟩ := readPart_split .seconds last
  simp only [read_eq, daysRead, hoursRead, minutesRead, secondsRead] at found
  obtain ⟨rfl, length⟩ := Option.ite_none_right_eq_some.mp found
  refine ⟨runsOf days hours minutes seconds, ⟨?_, mark, ?_⟩, (Option.some.inj length).symm⟩
  · intro part
    cases part with
    | days => exact daysDigital
    | hours => exact hoursDigital
    | minutes => exact minutesDigital
    | seconds => exact secondsDigital
  · rw [unmarkedSplit, hoursSplit, List.append_nil]
    rfl

private theorem read_text (digital : ∀ part, ∀ c ∈ runs part, Text.isDecimalDigit c = true) (marked : Bool) :
    Duration.read? (durationText marked runs) = some (readSeconds runs) := by
  -- The digits of a tail end at the letter of a part in it, so no part before it takes them.
  have secondsStop (c : Char) (other : 'S' ≠ c) : stop (Part.seconds.text (runs .seconds)) ≠ some c := by
    rw [← List.append_nil (Part.seconds.text _)]
    exact stop_part (digital _) other nofun
  have minutesStop (c : Char) (other : 'M' ≠ c) (last : 'S' ≠ c) :
      stop (Part.minutes.text (runs .minutes) ++ Part.seconds.text (runs .seconds)) ≠ some c :=
    stop_part (digital _) other (secondsStop c last)
  have hoursStop (c : Char) (other : 'H' ≠ c) (next : 'M' ≠ c) (last : 'S' ≠ c) :
      stop (Part.hours.text (runs .hours) ++ (Part.minutes.text (runs .minutes) ++ Part.seconds.text (runs .seconds))) ≠
        some c :=
    stop_part (digital _) other (minutesStop c next last)
  have markStop : stop ((if marked then ['T'] else []) ++ (Part.hours.text (runs .hours) ++
      (Part.minutes.text (runs .minutes) ++ Part.seconds.text (runs .seconds)))) ≠ some 'D' := by
    cases marked with
    | true => exact stop_plain mark_plain (List.forall_mem_nil _) _ ▸ by decide
    | false => exact hoursStop 'D' (by decide) (by decide) (by decide)
  have last : readPart Part.seconds.letter (Part.seconds.text (runs .seconds)) = (runValue (runs .seconds), []) := by
    rw [← List.append_nil (Part.seconds.text _)]
    exact readPart_text (digital _) nofun
  rw [durationText, read_eq, readPart_text (digital _) markStop]
  dsimp only
  rw [unmarked_append marked (hoursStop 'T' (by decide) (by decide) (by decide)),
    readPart_text (digital _) (minutesStop 'H' (by decide) (by decide))]
  dsimp only
  rw [readPart_text (digital _) (secondsStop 'M' (by decide))]
  dsimp only
  rw [last]
  rfl

/-- The reader accepts durations in the digits of any script, and no other text. -/
theorem read_iff {length : Nat} :
    Duration.read? text = some length ↔ ∃ runs, Shaped Text.isDecimalDigit text runs ∧ length = readSeconds runs := by
  constructor
  · intro found
    cases text with
    | nil => cases found
    | cons c text =>
    by_cases start : c = 'P'
    · subst start
      exact read_split found
    · unfold Duration.read? at found
      split at found
      next same => cases same; exact absurd rfl start
      next => cases found
  · rintro ⟨runs, ⟨digital, marked, rfl⟩, rfl⟩
    exact read_text digital marked

end Reading

section Length

variable {runs : Part → List Char} {text other : String}

/-- What a run counts: its number, or nothing if that does not fit a word. -/
def counted (run : List Char) : Nat :=
  if digitsValue run < 2 ^ 64 then digitsValue run else 0

/-- The seconds that the runs count together. -/
def total (runs : Part → List Char) : Nat :=
  counted (runs .days) * Part.days.size + counted (runs .hours) * Part.hours.size +
    counted (runs .minutes) * Part.minutes.size + counted (runs .seconds) * Part.seconds.size

private theorem limit_eq : limit = 2 ^ 64 - 1 := rfl

private theorem capped_left (first second : Nat) : min (min first limit + second) limit = min (first + second) limit := by
  omega

private theorem capped_both (first second : Nat) :
    min (min first limit + min second limit) limit = min (first + second) limit := by
  omega

/-- Sums that are capped on the way are one sum that is capped at its end. -/
theorem seconds_eq (days hours minutes rest : Nat) :
    Duration.seconds days hours minutes rest = min limit (days * 86400 + hours * 3600 + minutes * 60 + rest) := by
  simp only [Duration.seconds]
  rw [capped_both (days * 86400), capped_both (days * 86400 + hours * 3600), capped_left, Nat.min_comm]

theorem runValue_eq {run : List Char} (digital : ∀ c ∈ run, c.isDigit = true) : runValue run = counted run := by
  have fits : digitsValue run ≤ limit ↔ digitsValue run < 2 ^ 64 := by
    rw [limit_eq]
    omega
  unfold runValue counted
  rw [if_pos (List.all_eq_true.mpr digital)]
  exact if_congr fits rfl rfl

theorem decimal_of_isDigit {c : Char} (digit : c.isDigit = true) : Text.isDecimalDigit c = true := by
  refine List.any_eq_true.mpr ⟨(0x30, 0x39), List.mem_cons_self, ?_⟩
  simpa [Char.isDigit, UInt32.le_iff_toNat_le] using digit

theorem Shaped.scripts {text : List Char} (shaped : Shaped Char.isDigit text runs) :
    Shaped Text.isDecimalDigit text runs :=
  ⟨fun part c member => decimal_of_isDigit (shaped.digital part c member), shaped.spelled⟩

theorem parse_eq (text : String) : parse text = (Duration.read? (Text.trim text).toList).getD 0 := by
  rw [parse, Text.trim, String.toList_ofList]

/-- The length of a duration with runs of any length. -/
theorem Shaped.parse_eq (shaped : Shaped Char.isDigit (Text.trim text).toList runs) :
    parse text = min (2 ^ 64 - 1) (total runs) := by
  rw [DurationGrammar.parse_eq, read_iff.mpr ⟨runs, shaped.scripts, rfl⟩, Option.getD_some, readSeconds, seconds_eq, limit_eq,
    runValue_eq (shaped.digital _), runValue_eq (shaped.digital _), runValue_eq (shaped.digital _),
    runValue_eq (shaped.digital _), total, Part.size, Part.size, Part.size, Part.size, Nat.mul_one]

private theorem total_small (small : ∀ part, digitsValue (runs part) < 2 ^ 64) :
    total runs = 86400 * digitsValue (runs .days) + 3600 * digitsValue (runs .hours) +
      60 * digitsValue (runs .minutes) + digitsValue (runs .seconds) := by
  have counts (part : Part) : counted (runs part) = digitsValue (runs part) := if_pos (small part)
  simp only [total, counts, Part.size]
  omega

/-- The length of a duration is the sum of its parts, capped at a word, and a text that is
no duration in any script has none. -/
theorem parse_exactly (text : String) :
    (∀ runs, Shaped Char.isDigit (Text.trim text).toList runs → (∀ part, digitsValue (runs part) < 2 ^ 64) →
        parse text = min (2 ^ 64 - 1) (86400 * digitsValue (runs .days) + 3600 * digitsValue (runs .hours) +
          60 * digitsValue (runs .minutes) + digitsValue (runs .seconds))) ∧
      ((¬ ∃ runs, Shaped Text.isDecimalDigit (Text.trim text).toList runs) → parse text = 0) := by
  constructor
  · intro runs shaped small
    rw [shaped.parse_eq, total_small small]
  · intro shapeless
    have nothing : Duration.read? (Text.trim text).toList = none := by
      rw [Option.eq_none_iff_forall_not_mem]
      intro length found
      obtain ⟨runs, shaped, _⟩ := read_iff.mp found
      exact shapeless ⟨runs, shaped⟩
    rw [parse_eq, nothing, Option.getD_none]

/-- A sum past a word is capped, and parts in another order make no duration. -/
theorem long_duration_capped :
    parse "\tP2DT18446744073709551615M5S " = 18446744073709551615 ∧ parse "PT1M2H" = 0 := by
  constructor
  · have shaped : Shaped Char.isDigit (Text.trim "\tP2DT18446744073709551615M5S ").toList
        (runsOf "2".toList [] "18446744073709551615".toList "5".toList) :=
      ⟨fun part => List.all_eq_true.mp (by cases part <;> decide +kernel), true, by decide +kernel⟩
    have small (part : Part) :
        digitsValue (runsOf "2".toList [] "18446744073709551615".toList "5".toList part) < 2 ^ 64 := by
      cases part <;> decide +kernel
    exact (parse_exactly _).1 _ shaped small
  · refine (parse_exactly _).2 fun ⟨runs, shaped⟩ => ?_
    have nothing : Duration.read? (Text.trim "PT1M2H").toList = none := by decide +kernel
    rw [read_iff.mpr ⟨runs, shaped, rfl⟩] at nothing
    cases nothing

private theorem counted_nil : counted [] = 0 := rfl

private theorem total_update (runs : Part → List Char) (part : Part) (run : List Char) :
    total (Function.update runs part run) = total (Function.update runs part []) + counted run * part.size := by
  cases part <;> simp [total, counted_nil] <;> omega

/-- A larger number in one of the runs makes no duration shorter, unless it no longer fits a
word: then the part is lost, which is seen if it counted before and the other parts are
not already at the cap. -/
theorem grown_no_shorter_iff {part : Part} {longer : List Char}
    (shaped : Shaped Char.isDigit (Text.trim text).toList runs)
    (grown : Shaped Char.isDigit (Text.trim other).toList (Function.update runs part longer))
    (larger : digitsValue (runs part) ≤ digitsValue longer) :
    parse text ≤ parse other ↔
      digitsValue longer < 2 ^ 64 ∨ counted (runs part) = 0 ∨ 2 ^ 64 - 1 ≤ total (Function.update runs part []) := by
  have before := total_update runs part (runs part)
  rw [Function.update_eq_self] at before
  have size : 1 ≤ part.size := by cases part <;> decide
  rw [shaped.parse_eq, grown.parse_eq, before, total_update runs part longer]
  generalize total (Function.update runs part []) = others
  by_cases fits : digitsValue longer < 2 ^ 64
  · have counts : counted (runs part) ≤ counted longer := by
      unfold counted
      rw [if_pos fits, if_pos (Nat.lt_of_le_of_lt larger fits)]
      exact larger
    have scaled := Nat.mul_le_mul_right part.size counts
    simp only [fits, true_or, iff_true]
    omega
  · have lost : counted longer = 0 := if_neg fits
    rw [lost, Nat.zero_mul]
    simp only [fits, false_or]
    rcases Nat.eq_zero_or_pos (counted (runs part)) with none | positive
    · simp [none]
    · have scaled := Nat.mul_le_mul positive size
      omega

/-- More days than a word has seconds for. -/
theorem grown_days_capped : parse "P9DT7S" ≤ parse "P300000000000000DT7S" := by
  have shaped : Shaped Char.isDigit (Text.trim "P9DT7S").toList (runsOf ['9'] [] [] ['7']) :=
    ⟨fun part => List.all_eq_true.mp (by cases part <;> decide), true, by decide +kernel⟩
  have grown : Shaped Char.isDigit (Text.trim "P300000000000000DT7S").toList
      (Function.update (runsOf ['9'] [] [] ['7']) .days "300000000000000".toList) :=
    ⟨fun part => List.all_eq_true.mp (by cases part <;> decide +kernel), true, by decide +kernel⟩
  exact (grown_no_shorter_iff shaped grown (by decide +kernel)).mpr (.inl (by decide +kernel))

/-- A run that no longer fits a word counts nothing. -/
theorem overlong_run_lost :
    Shaped Char.isDigit (Text.trim "PT5S").toList (runsOf [] [] [] "5".toList) ∧
      Shaped Char.isDigit (Text.trim "PT18446744073709551616S").toList
        (Function.update (runsOf [] [] [] "5".toList) .seconds "18446744073709551616".toList) ∧
      digitsValue "5".toList ≤ digitsValue "18446744073709551616".toList ∧
      parse "PT5S" = 5 ∧ parse "PT18446744073709551616S" = 0 := by
  refine ⟨⟨fun part => List.all_eq_true.mp ?_, true, by decide +kernel⟩,
    ⟨fun part => List.all_eq_true.mp ?_, true, by decide +kernel⟩, by decide +kernel, by decide +kernel, by decide +kernel⟩
  · cases part <;> decide +kernel
  · cases part <;> decide +kernel

end Length

end ClipRank.Proofs.DurationGrammar
