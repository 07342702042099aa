import Mathlib.Data.List.Infix
import ClipRank.Query.Condition

/-! Which texts a condition finds wherever they stand. Part and whole are compared in
lowercase, and a capital sigma has two small forms: it is final after a letter that no other
letter follows. So the lowercase of a part can change with what surrounds it, and then there
is a text that holds the part character for character and is not found. -/

namespace ClipRank.Proofs.LiteralParts
open Text

private theorem occursIn_iff {part whole : List Char} : Condition.occursIn part whole = true ↔ part <:+: whole := by
  induction whole with
  | nil => simp [Condition.occursIn]
  | cons c whole ih =>
    rw [Condition.occursIn, Bool.or_eq_true, List.isPrefixOf_iff_prefix, List.infix_cons_iff]
    exact or_congr_right ih

private theorem contains_iff (part whole : String) :
    Condition.holds { Condition.empty with contains := some part } (some (.string whole)) = true ↔
      lowercaseChars [] part.toList <:+: lowercaseChars [] whole.toList := by
  rw [← occursIn_iff, ← String.toList_ofList (l := lowercaseChars [] part.toList),
    ← String.toList_ofList (l := lowercaseChars [] whole.toList)]
  rfl

section Context

/-- The lowercase of a text that stands between others, the one before it with its nearest
character first. -/
def lowercaseWithin (before : List Char) : List Char → List Char → List Char
  | [], _ => []
  | c :: rest, after => lowercaseAt before c (rest ++ after) ++ lowercaseWithin (c :: before) rest after

private theorem lowercaseChars_append (before text after : List Char) :
    lowercaseChars before (text ++ after) =
      lowercaseWithin before text after ++ lowercaseChars (text.reverse ++ before) after := by
  induction text generalizing before with
  | nil => rfl
  | cons c text ih => simp [lowercaseChars, lowercaseWithin, ih]

private theorem lowercaseChars_eq (before text : List Char) :
    lowercaseChars before text = lowercaseWithin before text [] := by
  have whole := lowercaseChars_append before text []
  rwa [List.append_nil, lowercaseChars, List.append_nil] at whole

private theorem lowercaseWithin_append (before first second after : List Char) :
    lowercaseWithin before (first ++ second) after =
      lowercaseWithin before first (second ++ after) ++ lowercaseWithin (first.reverse ++ before) second after := by
  induction first generalizing before with
  | nil => rfl
  | cons c first ih => simp [lowercaseWithin, ih]

private theorem length_lowercaseWithin (before after others rest text : List Char) :
    (lowercaseWithin before text after).length = (lowercaseWithin others text rest).length := by
  have single (before after others rest : List Char) (c : Char) :
      (lowercaseAt before c after).length = (lowercaseAt others c rest).length := by
    unfold lowercaseAt
    split
    · rfl
    · split <;> rfl
  induction text generalizing before others with
  | nil => rfl
  | cons c text ih =>
    rw [lowercaseWithin, lowercaseWithin, List.length_append, List.length_append]
    rw [single before (text ++ after) others (text ++ rest), ih (c :: before) (c :: others)]

end Context

section Sigma

/-- Whether a capital sigma has its final form between two texts. -/
def final (before after : List Char) : Bool :=
  meetsCased before && !meetsCased after

private theorem lowercaseAt_sigma (before after : List Char) :
    lowercaseAt before 'Σ' after = [if final before after then 'ς' else 'σ'] :=
  rfl

private theorem lowercaseAt_other {c : Char} (other : c ≠ 'Σ') (before after others rest : List Char) :
    lowercaseAt before c after = lowercaseAt others c rest := by
  rw [lowercaseAt, lowercaseAt, if_neg other, if_neg other]

/-- The character that decides whether a text meets a letter. -/
def neighbour (text : List Char) : Option Char :=
  text.find? fun c => !inRanges caseIgnorableRanges c

private theorem meetsCased_eq (text : List Char) : meetsCased text = (neighbour text).any (inRanges casedRanges) := by
  unfold neighbour meetsCased
  induction text with
  | nil => rfl
  | cons c text ih =>
    rw [List.dropWhile_cons, List.find?_cons]
    cases inRanges caseIgnorableRanges c with
    | false => rfl
    | true => exact ih

/-- What lies beyond a neighbour does not matter. -/
private theorem meetsCased_append {near : List Char} (met : neighbour near ≠ none) (far : List Char) :
    meetsCased (near ++ far) = meetsCased near := by
  rw [meetsCased_eq, meetsCased_eq]
  unfold neighbour at met ⊢
  rw [List.find?_append]
  cases found : near.find? fun c => !inRanges caseIgnorableRanges c with
  | none => exact absurd found met
  | some c => rfl

private theorem meetsCased_bare {near : List Char} (bare : neighbour near = none) (far : List Char) :
    meetsCased (near ++ far) = meetsCased far := by
  rw [meetsCased_eq, meetsCased_eq]
  unfold neighbour at bare ⊢
  rw [List.find?_append, bare, Option.none_or]

/-- A capital sigma whose form is not settled by the text that it stands in. Characters that
casing ignores aside, it ends the text after a letter, or it starts the text and no letter
follows it. -/
inductive OpenSigma (text : List Char) : Prop
  | last {front back} (split : text = front ++ 'Σ' :: back) (cased : meetsCased front.reverse = true)
      (bare : neighbour back = none)
  | first {front back} (split : text = front ++ 'Σ' :: back) (bare : neighbour front.reverse = none)
      (uncased : meetsCased back = false)

private theorem final_settled {front back : List Char} (settled : ¬ OpenSigma (front ++ 'Σ' :: back))
    (before after : List Char) : final (front.reverse ++ before) (back ++ after) = final front.reverse back := by
  unfold final
  by_cases bare : neighbour front.reverse = none
  · have alone : meetsCased front.reverse = false := by rw [meetsCased_eq, bare]; rfl
    cases cased : meetsCased back with
    | false => exact absurd (.first rfl bare cased) settled
    | true =>
      have met : neighbour back ≠ none := by
        intro none
        rw [meetsCased_eq, none] at cased
        cases cased
      rw [meetsCased_append met, cased, alone]
      simp
  · rw [meetsCased_append bare]
    cases cased : meetsCased front.reverse with
    | false => rfl
    | true =>
      have met : neighbour back ≠ none := fun none => settled (.last rfl cased none)
      rw [meetsCased_append met]

/-- A text without an open sigma has the same lowercase wherever it stands. -/
private theorem settled_within {text : List Char} (settled : ¬ OpenSigma text) (before after : List Char) :
    lowercaseWithin before text after = lowercaseWithin [] text [] := by
  suffices rest : ∀ back front, text = front ++ back →
      lowercaseWithin (front.reverse ++ before) back after = lowercaseWithin front.reverse back [] from
    rest text [] rfl
  intro back
  induction back with
  | nil => exact fun _ _ => rfl
  | cons c back ih =>
    intro front split
    have tail := ih (front ++ [c]) (by rw [split]; simp)
    rw [List.reverse_append, List.reverse_singleton] at tail
    have letter : lowercaseAt (front.reverse ++ before) c (back ++ after) = lowercaseAt front.reverse c back := by
      by_cases sigma : c = 'Σ'
      · subst sigma
        rw [lowercaseAt_sigma, lowercaseAt_sigma, final_settled (split ▸ settled)]
      · exact lowercaseAt_other sigma ..
    rw [lowercaseWithin, lowercaseWithin, List.append_nil, letter]
    exact congrArg _ tail

/-- One sigma of another form makes another lowercase. -/
private theorem within_differs {front back before after : List Char}
    (differs : final (front.reverse ++ before) (back ++ after) ≠ final front.reverse back) :
    lowercaseWithin before (front ++ 'Σ' :: back) after ≠ lowercaseWithin [] (front ++ 'Σ' :: back) [] := by
  intro same
  rw [lowercaseWithin_append, lowercaseWithin_append] at same
  obtain ⟨_, tails⟩ := List.append_inj same (length_lowercaseWithin ..)
  rw [lowercaseWithin, lowercaseWithin, lowercaseAt_sigma, lowercaseAt_sigma] at tails
  have forms := (List.cons.inj tails).1
  rw [List.append_nil, List.append_nil] at forms
  apply differs
  cases inside : final (front.reverse ++ before) (back ++ after) <;> cases alone : final front.reverse back
  · rfl
  · rw [inside, alone] at forms
    exact absurd forms (by decide)
  · rw [inside, alone] at forms
    exact absurd forms (by decide)
  · rfl

end Sigma

section Letters

/-- A letter that is its own lowercase. -/
structure Letter (c : Char) : Prop where
  lower : ∀ before after, lowercaseAt before c after = [c]
  plain : inRanges caseIgnorableRanges c = false
  cased : inRanges casedRanges c = true

private theorem Letter.met {c : Char} (letter : Letter c) (text : List Char) : meetsCased (c :: text) = true := by
  rw [meetsCased_eq, neighbour, List.find?_cons, letter.plain]
  exact letter.cased

private theorem letter_a : Letter 'a' :=
  ⟨fun _ _ => rfl, by decide +kernel, by decide +kernel⟩

private theorem letter_b : Letter 'b' :=
  ⟨fun _ _ => rfl, by decide +kernel, by decide +kernel⟩

private theorem exists_letter (other : Option Char) : ∃ c, Letter c ∧ some c ≠ other := by
  by_cases taken : other = some 'a'
  · exact ⟨'b', letter_b, by rw [taken]; decide⟩
  · exact ⟨'a', letter_a, fun same => taken same.symm⟩

end Letters

/-- Where one character comes before a text, a list of the text's length starts with it or
is the text. -/
private theorem infix_cons_length {part text : List Char} {c : Char} (inside : part <:+: c :: text)
    (length : part.length = text.length) : part.head? = some c ∨ part = text := by
  rcases List.infix_cons_iff.mp inside with first | later
  · cases part with
    | nil => exact .inr (List.length_eq_zero_iff.mp length.symm).symm
    | cons d part => exact .inl (congrArg some (List.cons_prefix_cons.mp first).1)
  · exact .inr (later.eq_of_length length)

section Missed
variable {text front back : List Char}

private theorem missed_before (split : text = front ++ 'Σ' :: back) (bare : neighbour front.reverse = none)
    (uncased : meetsCased back = false) : ∃ c : Char, ¬ lowercaseChars [] text <:+: lowercaseChars [] (c :: text) := by
  obtain ⟨c, letter, fresh⟩ := exists_letter (lowercaseChars [] text).head?
  refine ⟨c, fun inside => ?_⟩
  rw [lowercaseChars.eq_2, letter.lower, lowercaseChars_eq [c]] at inside
  have length : (lowercaseChars [] text).length = (lowercaseWithin [c] text []).length := by
    rw [lowercaseChars_eq]
    exact length_lowercaseWithin ..
  rcases infix_cons_length inside length with head | same
  · exact fresh head.symm
  · rw [lowercaseChars_eq, split] at same
    refine within_differs ?_ same.symm
    have alone : meetsCased front.reverse = false := by rw [meetsCased_eq, bare]; rfl
    unfold final
    rw [meetsCased_bare bare, letter.met, List.append_nil, uncased, alone]
    decide

private theorem missed_after (split : text = front ++ 'Σ' :: back) (cased : meetsCased front.reverse = true)
    (bare : neighbour back = none) : ∃ c : Char, ¬ lowercaseChars [] text <:+: lowercaseChars [] (text ++ [c]) := by
  obtain ⟨c, letter, fresh⟩ := exists_letter (lowercaseChars [] text).reverse.head?
  refine ⟨c, fun inside => ?_⟩
  have longer : lowercaseChars [] (text ++ [c]) = lowercaseWithin [] text [c] ++ [c] := by
    rw [lowercaseChars_append, lowercaseChars, letter.lower]
    rfl
  -- Read backwards, the character stands before the text.
  rw [longer, ← List.reverse_infix, List.reverse_append, List.reverse_singleton, List.singleton_append] at inside
  have length : (lowercaseChars [] text).reverse.length = (lowercaseWithin [] text [c]).reverse.length := by
    rw [lowercaseChars_eq, List.length_reverse, List.length_reverse]
    exact length_lowercaseWithin ..
  rcases infix_cons_length inside length with head | same
  · exact fresh head.symm
  · rw [List.reverse_inj, lowercaseChars_eq, split] at same
    refine within_differs ?_ same.symm
    have alone : meetsCased back = false := by rw [meetsCased_eq, bare]; rfl
    unfold final
    rw [meetsCased_bare bare, letter.met, List.append_nil, cased, alone]
    decide

end Missed

/-- A part is found in every text that holds it, character for character, just when no
sigma in it is open. -/
theorem found_everywhere_iff (part : String) :
    (∀ whole : String, part.toList <:+: whole.toList →
      Condition.holds { Condition.empty with contains := some part } (some (.string whole)) = true) ↔
    ¬ OpenSigma part.toList := by
  constructor
  · intro found sigma
    have missed (whole : List Char) (inside : part.toList <:+: whole) :
        lowercaseChars [] part.toList <:+: lowercaseChars [] whole := by
      have held := found (String.ofList whole) (by rwa [String.toList_ofList])
      rwa [contains_iff, String.toList_ofList] at held
    cases sigma with
    | last split cased bare =>
      obtain ⟨c, absent⟩ := missed_after split cased bare
      exact absent (missed _ (List.prefix_append _ _).isInfix)
    | first split bare uncased =>
      obtain ⟨c, absent⟩ := missed_before split bare uncased
      exact absent (missed _ (List.suffix_cons _ _).isInfix)
  · intro settled whole inside
    obtain ⟨before, after, same⟩ := inside
    rw [contains_iff, ← same, List.append_assoc, lowercaseChars_append, lowercaseChars_append,
      settled_within settled, lowercaseChars_eq]
    exact ⟨_, _, List.append_assoc ..⟩

/-- Two letters in capitals are not found in the three that start with them. -/
theorem final_sigma_missed :
    "ΑΣ".toList <:+: "ΑΣΑ".toList ∧
      Condition.holds { Condition.empty with contains := some "ΑΣ" } (some (.string "ΑΣΑ")) = false := by
  refine ⟨⟨[], ['Α'], by decide⟩, ?_⟩
  decide +kernel

end ClipRank.Proofs.LiteralParts
