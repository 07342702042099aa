import ClipRank.Json.Document
import ClipRank.Proofs.SpanGrammar

/-! The tokens of JSON text: blanks, number literals and strings. What a token takes
of a text fits between braces, and it is the same when more text follows, except
for a number literal that could go on. -/

namespace ClipRank.Proofs.JsonTokens
open Json SpanGrammar

private theorem dropWhile_takes {accepts : Char → Bool} (plain : ∀ c, accepts c = true → Plain c) (text : List Char) :
    Takes text (text.dropWhile accepts) :=
  ⟨text.takeWhile accepts, List.takeWhile_append_dropWhile.symm,
    .of_plain fun c member => plain c (List.all_eq_true.mp List.all_takeWhile c member)⟩

private theorem dropWhile_extends {accepts : Char → Bool} {text : List Char} (ends : text.dropWhile accepts ≠ [])
    (more : List Char) : (text ++ more).dropWhile accepts = text.dropWhile accepts ++ more := by
  rw [List.dropWhile_append, if_neg (by simpa using ends)]

private theorem takeWhile_extends {accepts : Char → Bool} {text : List Char} (ends : text.dropWhile accepts ≠ [])
    (more : List Char) : (text ++ more).takeWhile accepts = text.takeWhile accepts := by
  have whole := List.takeWhile_append_dropWhile (p := accepts) (l := text)
  rw [List.takeWhile_append, if_neg]
  intro same
  have lengths := congrArg List.length whole
  rw [List.length_append, same] at lengths
  exact ends (List.eq_nil_of_length_eq_zero (by omega))

theorem plain_of_isSpace {c : Char} (space : isSpace c = true) : Plain c := by
  refine ⟨?_, ?_, ?_⟩ <;> (rintro rfl; exact absurd space (by decide))

theorem plain_of_isDigit {c : Char} (digit : c.isDigit = true) : Plain c := by
  refine ⟨?_, ?_, ?_⟩ <;> (rintro rfl; exact absurd digit (by decide))

theorem skipSpace_takes {text rest : List Char} (start : skipSpace text = rest) : Takes text rest :=
  start ▸ dropWhile_takes (fun _ => plain_of_isSpace) text

theorem skipSpace_extends {text : List Char} {c : Char} {rest : List Char} (start : skipSpace text = c :: rest)
    (more : List Char) : skipSpace (text ++ more) = c :: (rest ++ more) := by
  rw [skipSpace, dropWhile_extends (by rw [← skipSpace, start]; simp), ← skipSpace, start, List.cons_append]

private theorem readFraction_takes {text rest : List Char} {digits : Option (List Char)}
    (found : readNumeral?.readFraction? text = some (digits, rest)) : Takes text rest := by
  unfold readNumeral?.readFraction? at found
  split at found
  next text =>
    dsimp only at found
    split at found
    · cases found
    · cases found
      exact (dropWhile_takes (fun _ => plain_of_isDigit) text).cons (by decide)
  next => cases found; exact Takes.refl text

private theorem splitSign_takes (text : List Char) : Takes text (Binary64.splitSign text).2 := by
  unfold Binary64.splitSign
  split
  · exact (Takes.refl _).cons (by decide)
  · exact (Takes.refl _).cons (by decide)
  · exact Takes.refl _

private theorem readPower_takes {text rest : List Char} {power : Option (Bool × List Char)}
    (found : readNumeral?.readPower? text = some (power, rest)) : Takes text rest := by
  unfold readNumeral?.readPower? at found
  split at found
  next => cases found; exact Takes.refl _
  next mark text =>
    dsimp only at found
    split at found
    next marked =>
      split at found
      · cases found
      · cases found
        have plain : Plain mark := by rcases marked with rfl | rfl <;> decide
        exact Takes.cons plain ((splitSign_takes text).trans (dropWhile_takes (fun _ => plain_of_isDigit) _))
    next => cases found; exact Takes.refl _

private theorem readFraction_extends {text rest : List Char} {digits : Option (List Char)}
    (found : readNumeral?.readFraction? text = some (digits, rest)) (ends : rest ≠ []) (more : List Char) :
    readNumeral?.readFraction? (text ++ more) = some (digits, rest ++ more) := by
  unfold readNumeral?.readFraction? at found
  split at found
  next text =>
    dsimp only at found
    split at found
    · cases found
    next some =>
      cases found
      simp only [List.cons_append, readNumeral?.readFraction?, takeWhile_extends ends, dropWhile_extends ends,
        if_neg some]
  next other =>
    cases found
    obtain ⟨c, rest, rfl⟩ := List.exists_cons_of_ne_nil ends
    unfold readNumeral?.readFraction?
    split
    next same => cases same; exact absurd rfl (other _)
    next => rfl

private theorem splitSign_extends {text : List Char} (ends : text ≠ []) (more : List Char) :
    Binary64.splitSign (text ++ more) = ((Binary64.splitSign text).1, (Binary64.splitSign text).2 ++ more) := by
  obtain ⟨c, rest, rfl⟩ := List.exists_cons_of_ne_nil ends
  by_cases minus : c = '-'
  · subst minus; rfl
  by_cases plus : c = '+'
  · subst plus; rfl
  simp [Binary64.splitSign, minus, plus]

private theorem readPower_extends {text rest : List Char} {power : Option (Bool × List Char)}
    (found : readNumeral?.readPower? text = some (power, rest)) (ends : rest ≠ []) (more : List Char) :
    readNumeral?.readPower? (text ++ more) = some (power, rest ++ more) := by
  unfold readNumeral?.readPower? at found
  split at found
  next => cases found; exact absurd rfl ends
  next mark text =>
    dsimp only at found
    split at found
    next marked =>
      split at found
      · cases found
      next some =>
        cases found
        have filled : text ≠ [] := by rintro rfl; exact ends rfl
        simp only [List.cons_append, readNumeral?.readPower?, if_pos marked, splitSign_extends filled,
          takeWhile_extends ends, dropWhile_extends ends, if_neg some]
    next plain => cases found; simp only [List.cons_append, readNumeral?.readPower?, if_neg plain]

/-- A text without the minus at its start. -/
def unsigned : List Char → List Char
  | '-' :: rest => rest
  | text => text

private theorem unsigned_takes (text : List Char) : Takes text (unsigned text) := by
  unfold unsigned
  split
  · exact (Takes.refl _).cons (by decide)
  · exact Takes.refl _

private theorem unsigned_extends {text : List Char} (ends : text ≠ []) (more : List Char) :
    unsigned (text ++ more) = unsigned text ++ more := by
  obtain ⟨c, rest, rfl⟩ := List.exists_cons_of_ne_nil ends
  by_cases minus : c = '-'
  · subst minus; rfl
  · simp [unsigned, minus]

private theorem readNumeral_eq (text : List Char) :
    readNumeral? text =
      let whole := (unsigned text).takeWhile Char.isDigit
      if whole = [] ∨ (whole.head? = some '0' ∧ 1 < whole.length) then none
      else
        match readNumeral?.readFraction? ((unsigned text).dropWhile Char.isDigit) with
        | none => none
        | some (fraction, rest) => (readNumeral?.readPower? rest).map fun (power, rest) =>
            (⟨decide (text.head? = some '-'), whole, fraction, power⟩, rest) := by
  unfold unsigned
  split
  next rest => rfl
  next other =>
    have positive : decide (text.head? = some '-') = false := by
      refine decide_eq_false fun minus => ?_
      obtain ⟨rest, rfl⟩ := List.head?_eq_some_iff.mp minus
      exact other rest rfl
    unfold readNumeral?
    rw [positive]
    split
    next _ negative _ same =>
      split at same
      next rest => exact absurd rfl (other rest)
      next => cases same; rfl

/-- A number literal is a whole part, a fraction and a power after each other. -/
theorem readNumeral_iff {text rest : List Char} {numeral : Numeral} :
    readNumeral? text = some (numeral, rest) ↔
      let whole := (unsigned text).takeWhile Char.isDigit
      ¬ (whole = [] ∨ (whole.head? = some '0' ∧ 1 < whole.length)) ∧
      ∃ fraction middle power,
        readNumeral?.readFraction? ((unsigned text).dropWhile Char.isDigit) = some (fraction, middle) ∧
        readNumeral?.readPower? middle = some (power, rest) ∧
        ⟨decide (text.head? = some '-'), whole, fraction, power⟩ = numeral := by
  rw [readNumeral_eq]
  dsimp only
  split
  next refused =>
    constructor
    · intro found
      cases found
    · exact fun ⟨accepted, _⟩ => absurd refused accepted
  next accepted =>
    cases fraction : readNumeral?.readFraction? ((unsigned text).dropWhile Char.isDigit) with
    | none => simp
    | some found =>
      obtain ⟨digits, middle⟩ := found
      constructor
      · intro found
        obtain ⟨⟨power, after⟩, powerFound, same⟩ := Option.map_eq_some_iff.mp found
        cases same
        exact ⟨accepted, digits, middle, power, rfl, powerFound, rfl⟩
      · rintro ⟨_, _, _, power, same, powerFound, rfl⟩
        cases same
        exact Option.map_eq_some_iff.mpr ⟨(power, rest), powerFound, rfl⟩

theorem readNumeral_takes {text rest : List Char} {numeral : Numeral}
    (found : readNumeral? text = some (numeral, rest)) : Takes text rest ∧ rest.length < text.length := by
  obtain ⟨accepted, fraction, middle, power, fractionFound, powerFound, _⟩ := readNumeral_iff.mp found
  have later := (readFraction_takes fractionFound).trans (readPower_takes powerFound)
  have digits := dropWhile_takes (fun _ => plain_of_isDigit) (unsigned text)
  refine ⟨(unsigned_takes text).trans (digits.trans later), ?_⟩
  have some : 0 < ((unsigned text).takeWhile Char.isDigit).length :=
    List.length_pos_iff.mpr fun none => accepted (Or.inl none)
  have whole := congrArg List.length (List.takeWhile_append_dropWhile (p := Char.isDigit) (l := unsigned text))
  have sizes := (unsigned_takes text).length
  have others := later.length
  rw [List.length_append] at whole
  omega

/-- A number literal ends where something follows it that cannot belong to it. -/
theorem readNumeral_extends {text rest : List Char} {numeral : Numeral}
    (found : readNumeral? text = some (numeral, rest)) (ends : rest ≠ []) (more : List Char) :
    readNumeral? (text ++ more) = some (numeral, rest ++ more) := by
  have filled : text ≠ [] := by
    rintro rfl
    exact absurd (readNumeral_takes found).2 (Nat.not_lt_zero _)
  obtain ⟨accepted, fraction, middle, power, fractionFound, powerFound, rfl⟩ := readNumeral_iff.mp found
  have middleEnds := (readPower_takes powerFound).filled ends
  have wholeEnds := (readFraction_takes fractionFound).filled middleEnds
  have head : (text ++ more).head? = text.head? := by
    rw [List.head?_append, Option.or_of_isSome (List.isSome_head?.mpr filled)]
  rw [readNumeral_iff, unsigned_extends filled, takeWhile_extends wholeEnds, dropWhile_extends wholeEnds, head]
  exact ⟨accepted, fraction, middle ++ more, power, readFraction_extends fractionFound middleEnds more,
    readPower_extends powerFound ends more, rfl⟩

/-- A number literal begins with a minus or a digit. -/
theorem readNumeral_start {text rest : List Char} {numeral : Numeral}
    (found : readNumeral? text = some (numeral, rest)) :
    ∃ c others, text = c :: others ∧ (c = '-' ∨ c.isDigit = true) := by
  obtain ⟨accepted, _⟩ := readNumeral_iff.mp found
  cases text with
  | nil => exact absurd (Or.inl rfl) accepted
  | cons c others =>
    refine ⟨c, others, rfl, ?_⟩
    by_cases minus : c = '-'
    · exact Or.inl minus
    · refine Or.inr (Classical.byContradiction fun noDigit => accepted (Or.inl ?_))
      simp [unsigned, minus, noDigit]

theorem readWord_eq {word : List Char} {document found : Document} {text rest : List Char}
    (read : readWord word document text = (found, some rest)) : found = document ∧ text = word ++ rest := by
  unfold readWord at read
  split at read
  next starts =>
    cases read
    exact ⟨rfl, (List.prefix_iff_eq_append.mp (List.isPrefixOf_iff_prefix.mp starts)).symm⟩
  next => cases read

private theorem hexValue_quotable {c : Char} {value : Nat} (hex : hexValue? c = some value) : c ≠ '"' ∧ c ≠ '\\' := by
  constructor <;> (rintro rfl; cases hex)

private theorem hexUnit_quotable {a b c d : Char} {code : Nat} (hex : hexUnit? a b c d = some code) {text : List Char}
    (rest : Quoted text) : Quoted (a :: b :: c :: d :: text) := by
  simp only [hexUnit?, Option.bind_eq_bind, Option.bind_eq_some_iff] at hex
  obtain ⟨_, first, _, second, _, third, _, fourth, _⟩ := hex
  have quotable {c value} (hex : hexValue? c = some value) {text} (rest : Quoted text) : Quoted (c :: text) :=
    .plain (hexValue_quotable hex).1 (hexValue_quotable hex).2 rest
  exact quotable first (quotable second (quotable third (quotable fourth rest)))

/-- A string body is read up to its quote, whatever follows that. -/
private theorem readPieces_body {text rest : List Char} {pieces : List Piece}
    (read : readPieces? text = some (pieces, rest)) :
    ∃ body, text = body ++ '"' :: rest ∧ Quoted body ∧
      ∀ other, readPieces? (body ++ '"' :: other) = some (pieces, other) := by
  fun_induction readPieces? text generalizing pieces with
  | case1 | case3 | case5 | case7 => cases read
  | case2 => cases read; exact ⟨[], rfl, .nil, fun _ => rfl⟩
  | case4 a b c d text code hex ih =>
    obtain ⟨⟨found, after⟩, read, same⟩ := Option.map_eq_some_iff.mp read
    cases same
    obtain ⟨body, rfl, quoted, again⟩ := ih read
    refine ⟨'\\' :: 'u' :: a :: b :: c :: d :: body, rfl, .escaped (hexUnit_quotable hex quoted), fun other => ?_⟩
    simp [readPieces?, hex, again]
  | case6 mark text _ c known ih =>
    obtain ⟨⟨found, after⟩, read, same⟩ := Option.map_eq_some_iff.mp read
    cases same
    obtain ⟨body, rfl, quoted, again⟩ := ih read
    have letter : mark ≠ 'u' := by rintro rfl; cases known
    refine ⟨'\\' :: mark :: body, rfl, .escaped quoted, fun other => ?_⟩
    simp [readPieces?, letter, known, again]
  | case8 c text noQuote _ _ accepted ih =>
    obtain ⟨⟨found, after⟩, read, same⟩ := Option.map_eq_some_iff.mp read
    cases same
    obtain ⟨body, rfl, quoted, again⟩ := ih read
    have noBackslash : c ≠ '\\' := fun backslash => accepted (Or.inr backslash)
    have visible : 0x20 ≤ c.toNat := Nat.le_of_not_lt fun control => accepted (Or.inl control)
    refine ⟨c :: body, rfl, .plain noQuote noBackslash quoted, fun other => ?_⟩
    simp [readPieces?, noBackslash, visible, again]

theorem readString_body {text rest : List Char} {value : Option String}
    (read : readString? text = some (value, rest)) :
    ∃ body, text = body ++ '"' :: rest ∧ Quoted body ∧
      ∀ other, readString? (body ++ '"' :: other) = some (value, other) := by
  obtain ⟨⟨pieces, after⟩, found, same⟩ := Option.map_eq_some_iff.mp read
  cases same
  obtain ⟨body, rfl, quoted, again⟩ := readPieces_body found
  exact ⟨body, rfl, quoted, fun other => by rw [readString?, again, Option.map_some]⟩

end ClipRank.Proofs.JsonTokens
