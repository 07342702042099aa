import ClipRank.Proofs.JsonTokens

/-! The grammar of JSON text, apart from how the reader goes about it: which phrase
a text begins with and what follows the phrase. The reader finds exactly these
phrases. They are balanced, and a phrase that says where it ends is found again
when more text follows. -/

namespace ClipRank.Proofs.JsonReading
open Json JsonTokens SpanGrammar

inductive Phrase where
  | value (document : Document)
  | items (documents : List Document)
  | member (key : Option String) (document : Document)
  | members (members : List (Option String × Document))

def words : List (List Char × Document) :=
  [("null".toList, .null), ("true".toList, .boolean true), ("false".toList, .boolean false)]

/-- `Reads phrase text rest`: the text begins with the whole phrase, and the rest
follows it. Items and members go on to the bracket that closes them. -/
inductive Reads : Phrase → List Char → List Char → Prop where
  | blank {c phrase text rest} (space : isSpace c = true) (reads : Reads phrase text rest) :
      Reads phrase (c :: text) rest
  | word {word document rest} (known : (word, document) ∈ words) : Reads (.value document) (word ++ rest) rest
  | number {text numeral rest} (literal : readNumeral? text = some (numeral, rest)) :
      Reads (.value (.number numeral.value?)) text rest
  | string {text value rest} (body : readString? text = some (value, rest)) :
      Reads (.value (.string value)) ('"' :: text) rest
  | emptyArray {text rest} (closes : skipSpace text = ']' :: rest) :
      Reads (.value (.array [] true)) ('[' :: text) rest
  | array {text documents rest} (inner : Reads (.items documents) text rest) :
      Reads (.value (.array documents true)) ('[' :: text) rest
  | emptyObject {text rest} (closes : skipSpace text = '\x7d' :: rest) :
      Reads (.value (.object [] true)) ('\x7b' :: text) rest
  | object {text members rest} (inner : Reads (.members members) text rest) :
      Reads (.value (.object members true)) ('\x7b' :: text) rest
  | lastItem {text document after rest} (first : Reads (.value document) text after)
      (closes : skipSpace after = ']' :: rest) : Reads (.items [document]) text rest
  | item {text document after more documents rest} (first : Reads (.value document) text after)
      (comma : skipSpace after = ',' :: more) (others : Reads (.items documents) more rest) :
      Reads (.items (document :: documents)) text rest
  | member {text key after more document rest} (named : readString? text = some (key, after))
      (colon : skipSpace after = ':' :: more) (valued : Reads (.value document) more rest) :
      Reads (.member key document) ('"' :: text) rest
  | lastMember {text key document after rest} (first : Reads (.member key document) text after)
      (closes : skipSpace after = '\x7d' :: rest) : Reads (.members [(key, document)]) text rest
  | members {text key document after more members rest} (first : Reads (.member key document) text after)
      (comma : skipSpace after = ',' :: more) (others : Reads (.members members) more rest) :
      Reads (.members ((key, document) :: members)) text rest

private theorem words_plain {word : List Char} {document : Document} (known : (word, document) ∈ words) :
    0 < word.length ∧ ∀ c ∈ word, Plain c := by
  simp only [words, List.mem_cons, Prod.mk.injEq, List.not_mem_nil, or_false] at known
  rcases known with ⟨rfl, _⟩ | ⟨rfl, _⟩ | ⟨rfl, _⟩ <;> simp [Plain]

theorem Reads.unskip {phrase : Phrase} {text rest : List Char} (reads : Reads phrase (skipSpace text) rest) :
    Reads phrase text rest := by
  induction text with
  | nil => exact reads
  | cons c text ih =>
    by_cases space : isSpace c = true
    · rw [skipSpace, List.dropWhile_cons_of_pos space] at reads
      exact .blank space (ih reads)
    · rwa [skipSpace, List.dropWhile_cons_of_neg space] at reads

private theorem readWord_reads {word : List Char} {document found : Document} {text rest : List Char}
    (known : (word, document) ∈ words) (read : readWord word document text = (found, some rest)) :
    Reads (.value found) text rest := by
  obtain ⟨rfl, rfl⟩ := readWord_eq read
  exact .word known

/-- What the reader takes to be whole, given so many steps, is a phrase of the grammar. -/
structure Sound (fuel : Nat) : Prop where
  value {text rest document} : readValue fuel text = (document, some rest) → Reads (.value document) text rest
  items {text rest documents} : readItems fuel text = (documents, some rest) → Reads (.items documents) text rest
  members {text rest members} : readMembers fuel text = (members, some rest) → Reads (.members members) text rest

private theorem value_sound {fuel : Nat} (sound : Sound fuel) {text rest : List Char} {document : Document}
    (read : readValue (fuel + 1) text = (document, some rest)) :
    Reads (.value document) text rest := by
  apply Reads.unskip
  unfold readValue at read
  split at read
  · cases read
  next c body start =>
    rw [start]
    split at read
    next opens =>
      subst opens
      split at read
      · cases read
      next next after inside =>
        split at read
        next closes => subst closes; cases read; exact .emptyObject inside
        next =>
          cases found : readMembers fuel (next :: after) with
          | mk inner ends =>
            rw [found] at read
            cases read
            exact .object (Reads.unskip (inside ▸ sound.members found))
    split at read
    next opens =>
      subst opens
      split at read
      · cases read
      next next after inside =>
        split at read
        next closes => subst closes; cases read; exact .emptyArray inside
        next =>
          cases found : readItems fuel (next :: after) with
          | mk inner ends =>
            rw [found] at read
            cases read
            exact .array (Reads.unskip (inside ▸ sound.items found))
    split at read
    next quote =>
      subst quote
      split at read
      · cases read
      next value after found => cases read; exact .string found
    split at read
    · exact readWord_reads (by simp [words]) read
    split at read
    · exact readWord_reads (by simp [words]) read
    split at read
    · exact readWord_reads (by simp [words]) read
    split at read
    · cases read
    next numeral after found => cases read; exact .number found

private theorem items_sound {fuel : Nat} (sound : Sound fuel) {text rest : List Char} {documents : List Document}
    (read : readItems (fuel + 1) text = (documents, some rest)) : Reads (.items documents) text rest := by
  unfold readItems at read
  split at read
  · cases read
  next item after first =>
    split at read
    next more comma =>
      cases found : readItems fuel more with
      | mk others ends =>
        rw [found] at read
        cases read
        exact .item (sound.value first) comma (sound.items found)
    next closes => cases read; exact .lastItem (sound.value first) closes
    next => cases read

private theorem members_sound {fuel : Nat} (sound : Sound fuel) {text rest : List Char}
    {found : List (Option String × Document)} (read : readMembers (fuel + 1) text = (found, some rest)) :
    Reads (.members found) text rest := by
  apply Reads.unskip
  unfold readMembers at read
  split at read
  next body start =>
    rw [start]
    split at read
    · cases read
    next key after named =>
      split at read
      next more colon =>
        split at read
        · cases read
        next value behind valued =>
          have first := Reads.member named colon (sound.value valued)
          split at read
          next again comma =>
            cases found : readMembers fuel again with
            | mk others ends =>
              rw [found] at read
              cases read
              exact .members first comma (sound.members found)
          next closing behind' noComma closes =>
            split at read
            next brace => subst brace; cases read; exact .lastMember first closes
            next => cases read
          next => cases read
      next => cases read
  next => cases read

theorem reader_sound (fuel : Nat) : Sound fuel := by
  induction fuel with
  | zero => constructor <;> simp [readValue, readItems, readMembers]
  | succ fuel sound => exact ⟨value_sound sound, items_sound sound, members_sound sound⟩

/-- Every phrase takes something of the text. -/
theorem Reads.shorter {phrase : Phrase} {text rest : List Char} (reads : Reads phrase text rest) :
    rest.length < text.length := by
  induction reads with
  | blank _ _ ih => exact Nat.lt_succ_of_lt ih
  | word known =>
    have letters := (words_plain known).1
    rw [List.length_append]
    omega
  | number literal => exact (readNumeral_takes literal).2
  | string body =>
    obtain ⟨_, rfl, _⟩ := readString_body body
    simp
    omega
  | emptyArray closes | emptyObject closes =>
    have sizes := (skipSpace_takes closes).length
    simp at sizes ⊢
    omega
  | array _ ih | object _ ih => exact Nat.lt_succ_of_lt ih
  | lastItem _ closes ih | lastMember _ closes ih =>
    have sizes := (skipSpace_takes closes).length
    simp at sizes
    omega
  | item _ comma _ ih others | members _ comma _ ih others =>
    have sizes := (skipSpace_takes comma).length
    simp at sizes
    omega
  | member named colon _ ih =>
    have sizes := (skipSpace_takes colon).length
    obtain ⟨_, rfl, _⟩ := readString_body named
    simp at sizes ⊢
    omega

/-- Only a number can be longer when more text follows. -/
def Phrase.isNumber : Phrase → Bool
  | .value (.number _) | .member _ (.number _) => true
  | _ => false

private theorem start_filled {text : List Char} {c : Char} {rest : List Char} (start : skipSpace text = c :: rest) :
    text ≠ [] := by
  rintro rfl
  cases start

theorem Reads.extends {phrase : Phrase} {text rest : List Char} (reads : Reads phrase text rest)
    (ends : phrase.isNumber = false ∨ rest ≠ []) (more : List Char) : Reads phrase (text ++ more) (rest ++ more) := by
  induction reads with
  | blank space _ ih => exact .blank space (ih ends)
  | word known => rw [List.append_assoc]; exact .word known
  | number literal =>
    have filled := ends.resolve_left (by simp [Phrase.isNumber])
    exact .number (readNumeral_extends literal filled more)
  | string body =>
    obtain ⟨_, rfl, _, again⟩ := readString_body body
    simpa using Reads.string (again _)
  | emptyArray closes => exact .emptyArray (skipSpace_extends closes more)
  | array _ ih => exact .array (ih (Or.inl rfl))
  | emptyObject closes => exact .emptyObject (skipSpace_extends closes more)
  | object _ ih => exact .object (ih (Or.inl rfl))
  | lastItem _ closes ih => exact .lastItem (ih (Or.inr (start_filled closes))) (skipSpace_extends closes more)
  | item _ comma _ ih others =>
    exact .item (ih (Or.inr (start_filled comma))) (skipSpace_extends comma more) (others (Or.inl rfl))
  | @member _ _ _ _ document _ named colon _ ih =>
    obtain ⟨_, rfl, _, again⟩ := readString_body named
    have valued := ih (by cases document <;> first | exact Or.inl rfl | exact ends)
    simpa using Reads.member (again _) (skipSpace_extends colon more) valued
  | lastMember _ closes ih => exact .lastMember (ih (Or.inr (start_filled closes))) (skipSpace_extends closes more)
  | members _ comma _ ih others =>
    exact .members (ih (Or.inr (start_filled comma))) (skipSpace_extends comma more) (others (Or.inl rfl))

/-- What stands after the balanced part of a phrase. Members end with a brace that
opened before them. -/
private def Phrase.ending (phrase : Phrase) (rest : List Char) : List Char :=
  match phrase with
  | .members _ => '\x7d' :: rest
  | _ => rest

private theorem Reads.takes {phrase : Phrase} {text rest : List Char} (reads : Reads phrase text rest) :
    Takes text (phrase.ending rest) := by
  induction reads with
  | blank space _ ih => exact ih.cons (plain_of_isSpace space)
  | word known => exact ⟨_, rfl, .of_plain (words_plain known).2⟩
  | number literal => exact (readNumeral_takes literal).1
  | string body =>
    obtain ⟨_, rfl, quoted, _⟩ := readString_body body
    exact .quoted quoted _
  | emptyArray closes => exact ((skipSpace_takes closes).trans ((Takes.refl _).cons (by decide))).cons (by decide)
  | array _ ih => exact ih.cons (by decide)
  | emptyObject closes => exact .braces (skipSpace_takes closes)
  | object _ ih => exact .braces ih
  | lastItem _ closes ih => exact ih.trans ((skipSpace_takes closes).trans ((Takes.refl _).cons (by decide)))
  | item _ comma _ ih others => exact ih.trans ((skipSpace_takes comma).trans (others.cons (by decide)))
  | member named colon _ ih =>
    obtain ⟨_, rfl, quoted, _⟩ := readString_body named
    exact (Takes.quoted quoted _).trans ((skipSpace_takes colon).trans (ih.cons (by decide)))
  | lastMember _ closes ih => exact ih.trans (skipSpace_takes closes)
  | members _ comma _ ih others => exact ih.trans ((skipSpace_takes comma).trans (others.cons (by decide)))

/-- A value that starts with a brace is a closed object, and it is balanced text in
braces. -/
theorem Reads.opened {document : Document} {text rest : List Char}
    (reads : Reads (.value document) ('\x7b' :: text) rest) :
    (∃ members, document = .object members true) ∧ Takes text ('\x7d' :: rest) := by
  generalize same : '\x7b' :: text = whole at reads
  cases reads with
  | blank space _ => cases same; cases space
  | word known =>
    simp only [words, List.mem_cons, Prod.mk.injEq, List.not_mem_nil, or_false] at known
    rcases known with ⟨rfl, _⟩ | ⟨rfl, _⟩ | ⟨rfl, _⟩ <;> cases same
  | number literal =>
    obtain ⟨c, others, rfl, start⟩ := readNumeral_start literal
    cases same
    exact absurd start (by decide)
  | string | emptyArray | array => cases same
  | emptyObject closes => cases same; exact ⟨⟨_, rfl⟩, skipSpace_takes closes⟩
  | object inner => cases same; exact ⟨⟨_, rfl⟩, inner.takes⟩

/-- What the reader makes of a phrase, given enough steps. -/
private def Found (fuel : Nat) (text rest : List Char) : Phrase → Prop
  | .value document => readValue fuel text = (document, some rest)
  | .items documents => readItems fuel text = (documents, some rest)
  | .member key document => ∃ body after more, skipSpace text = '"' :: body ∧ readString? body = some (key, after) ∧
      skipSpace after = ':' :: more ∧ readValue fuel more = (document, some rest)
  | .members members => readMembers fuel text = (members, some rest)

private theorem skipSpace_blank {c : Char} (space : isSpace c = true) (text : List Char) :
    skipSpace (c :: text) = skipSpace text :=
  List.dropWhile_cons_of_pos space

private theorem skipSpace_nonblank {c : Char} (space : isSpace c = false) (text : List Char) :
    skipSpace (c :: text) = c :: text :=
  List.dropWhile_cons_of_neg (by simp [space])

theorem skipSpace_skipSpace (text : List Char) : skipSpace (skipSpace text) = skipSpace text := by
  induction text with
  | nil => rfl
  | cons c rest ih =>
    cases space : isSpace c with
    | true => rwa [skipSpace_blank space]
    | false => rw [skipSpace_nonblank space, skipSpace_nonblank space]

private theorem readValue_skipSpace (fuel : Nat) (text : List Char) :
    readValue fuel (skipSpace text) = readValue fuel text := by
  cases fuel with
  | zero => rfl
  | succ fuel => simp only [readValue, skipSpace_skipSpace]

private theorem readItems_skipSpace (fuel : Nat) (text : List Char) :
    readItems fuel (skipSpace text) = readItems fuel text := by
  cases fuel with
  | zero => rfl
  | succ fuel => simp only [readItems, readValue_skipSpace]

private theorem readMembers_skipSpace (fuel : Nat) (text : List Char) :
    readMembers fuel (skipSpace text) = readMembers fuel text := by
  cases fuel with
  | zero => rfl
  | succ fuel => simp only [readMembers, skipSpace_skipSpace]

private theorem found_blank {fuel : Nat} {c : Char} {text rest : List Char} {phrase : Phrase}
    (space : isSpace c = true) (found : Found fuel text rest phrase) : Found fuel (c :: text) rest phrase := by
  have skips := skipSpace_blank space text
  cases phrase with
  | value => rwa [Found, ← readValue_skipSpace, skips, readValue_skipSpace]
  | items => rwa [Found, ← readItems_skipSpace, skips, readItems_skipSpace]
  | member => simpa only [Found, skips] using found
  | members => rwa [Found, ← readMembers_skipSpace, skips, readMembers_skipSpace]

private theorem digit_starts {c : Char} (start : c = '-' ∨ c.isDigit = true) :
    isSpace c = false ∧ c ≠ '\x7b' ∧ c ≠ '\x7d' ∧ c ≠ '[' ∧ c ≠ ']' ∧ c ≠ '"' ∧ c ≠ 'n' ∧ c ≠ 't' ∧ c ≠ 'f' := by
  rcases start with rfl | digit
  · decide
  · have blank : isSpace c = false := by
      refine Bool.eq_false_iff.mpr fun space => ?_
      simp only [isSpace, Bool.or_eq_true, decide_eq_true_eq] at space
      rcases space with ((rfl | rfl) | rfl) | rfl <;> exact absurd digit (by decide)
    refine ⟨blank, ?_, ?_, ?_, ?_, ?_, ?_, ?_, ?_⟩ <;> (rintro rfl; exact absurd digit (by decide))

/-- No phrase begins with a bracket that closes. -/
private theorem Reads.starts {phrase : Phrase} {text rest : List Char} (reads : Reads phrase text rest) :
    ∃ c after, skipSpace text = c :: after ∧ c ≠ ']' ∧ c ≠ '\x7d' := by
  induction reads with
  | blank space _ ih => rwa [skipSpace_blank space]
  | word known =>
    simp only [words, List.mem_cons, Prod.mk.injEq, List.not_mem_nil, or_false] at known
    rcases known with ⟨rfl, _⟩ | ⟨rfl, _⟩ | ⟨rfl, _⟩ <;> exact ⟨_, _, rfl, by decide, by decide⟩
  | number literal =>
    obtain ⟨c, others, rfl, start⟩ := readNumeral_start literal
    obtain ⟨blank, _, noBrace, _, noBracket, _⟩ := digit_starts start
    exact ⟨c, others, skipSpace_nonblank blank others, noBracket, noBrace⟩
  | string | emptyArray | array | emptyObject | object | member =>
    exact ⟨_, _, rfl, by decide, by decide⟩
  | lastItem _ _ ih | item _ _ _ ih | lastMember _ _ ih | members _ _ _ ih => exact ih

private theorem readValue_word {word : List Char} {document : Document} (known : (word, document) ∈ words) (fuel : Nat)
    (rest : List Char) : readValue (fuel + 1) (word ++ rest) = (document, some rest) := by
  simp only [words, List.mem_cons, Prod.mk.injEq, List.not_mem_nil, or_false] at known
  rcases known with ⟨rfl, rfl⟩ | ⟨rfl, rfl⟩ | ⟨rfl, rfl⟩ <;> simp [readValue, skipSpace, isSpace, readWord]

private theorem readValue_number {text rest : List Char} {numeral : Numeral}
    (literal : readNumeral? text = some (numeral, rest)) (fuel : Nat) :
    readValue (fuel + 1) text = (.number numeral.value?, some rest) := by
  obtain ⟨c, others, rfl, start⟩ := readNumeral_start literal
  obtain ⟨blank, noBrace, _, noBracket, _, noQuote, noNull, noTrue, noFalse⟩ := digit_starts start
  simp only [readValue, skipSpace_nonblank blank, if_neg noBrace, if_neg noBracket, if_neg noQuote, if_neg noNull,
    if_neg noTrue, if_neg noFalse, literal]

private theorem readValue_string {text rest : List Char} {value : Option String}
    (body : readString? text = some (value, rest)) (fuel : Nat) :
    readValue (fuel + 1) ('"' :: text) = (.string value, some rest) := by
  simp [readValue, skipSpace_nonblank, isSpace, body]

private theorem readValue_array {text rest : List Char} {documents : List Document} {fuel : Nat}
    (starts : ∃ c after, skipSpace text = c :: after ∧ c ≠ ']' ∧ c ≠ '\x7d')
    (items : readItems fuel text = (documents, some rest)) :
    readValue (fuel + 1) ('[' :: text) = (.array documents true, some rest) := by
  obtain ⟨c, after, inside, noBracket, _⟩ := starts
  rw [← readItems_skipSpace, inside] at items
  simp [readValue, skipSpace_nonblank, isSpace, inside, noBracket, items]

private theorem readValue_object {text rest : List Char} {members : List (Option String × Document)} {fuel : Nat}
    (starts : ∃ c after, skipSpace text = c :: after ∧ c ≠ ']' ∧ c ≠ '\x7d')
    (found : readMembers fuel text = (members, some rest)) :
    readValue (fuel + 1) ('\x7b' :: text) = (.object members true, some rest) := by
  obtain ⟨c, after, inside, _, noBrace⟩ := starts
  rw [← readMembers_skipSpace, inside] at found
  simp [readValue, skipSpace_nonblank, isSpace, inside, noBrace, found]

/-- Reading a phrase takes one step more than what stands inside of it. -/
private theorem Reads.found_succ {fuel : Nat} {phrase : Phrase} {text rest : List Char} (reads : Reads phrase text rest)
    (inside : ∀ {phrase text rest}, Reads phrase text rest → 2 * text.length ≤ fuel + 2 * rest.length →
      Found fuel text rest phrase)
    (enough : 2 * text.length ≤ fuel + 1 + 2 * rest.length) : Found (fuel + 1) text rest phrase := by
  -- Blanks and the key of a member are passed over without a step, hence the induction.
  induction reads with
  | blank space _ ih =>
    rw [List.length_cons] at enough
    exact found_blank space (ih (by omega))
  | word known => exact readValue_word known fuel _
  | number literal => exact readValue_number literal fuel
  | string body => exact readValue_string body fuel
  | emptyArray closes => simp [Found, readValue, skipSpace_nonblank, isSpace, closes]
  | array inner =>
    rw [List.length_cons] at enough
    exact readValue_array inner.starts (inside inner (by omega))
  | emptyObject closes => simp [Found, readValue, skipSpace_nonblank, isSpace, closes]
  | object inner =>
    rw [List.length_cons] at enough
    exact readValue_object inner.starts (inside inner (by omega))
  | lastItem first closes =>
    have sizes := (skipSpace_takes closes).length
    rw [List.length_cons] at sizes
    have value : readValue fuel _ = _ := inside first (by omega)
    simp [Found, readItems, value, closes]
  | item first comma others =>
    have sizes := (skipSpace_takes comma).length
    have taken := first.shorter
    have later := others.shorter
    rw [List.length_cons] at sizes
    have value : readValue fuel _ = _ := inside first (by omega)
    have items : readItems fuel _ = _ := inside others (by omega)
    simp [Found, readItems, value, comma, items]
  | member named colon _ ih =>
    have sizes := (skipSpace_takes colon).length
    obtain ⟨body, same, _, _⟩ := readString_body named
    have value : readValue (fuel + 1) _ = _ := ih (by simp_all; omega)
    exact ⟨_, _, _, skipSpace_nonblank (by decide) _, named, colon, value⟩
  | lastMember first closes =>
    have sizes := (skipSpace_takes closes).length
    rw [List.length_cons] at sizes
    obtain ⟨body, behind, more, start, named, colon, value⟩ := inside first (by omega)
    simp [Found, readMembers, start, named, colon, value, closes]
  | members first comma others =>
    have sizes := (skipSpace_takes comma).length
    have taken := first.shorter
    have later := others.shorter
    rw [List.length_cons] at sizes
    obtain ⟨body, behind, more, start, named, colon, value⟩ := inside first (by omega)
    have found : readMembers fuel _ = _ := inside others (by omega)
    simp [Found, readMembers, start, named, colon, value, comma, found]

/-- Two steps for every character of a phrase are enough to read it: it takes at least one
character, which pays for its value and for its list. -/
private theorem Reads.found {phrase : Phrase} {text rest : List Char} (reads : Reads phrase text rest) (fuel : Nat)
    (enough : 2 * text.length ≤ fuel + 2 * rest.length) : Found fuel text rest phrase := by
  induction fuel generalizing phrase text rest with
  | zero => exact absurd reads.shorter (by omega)
  | succ fuel ih => exact reads.found_succ ih enough

/-- The reader takes a value to be whole just where the grammar has it. -/
theorem readStart_iff {text rest : List Char} {document : Document} :
    Document.readStart text = (document, some rest) ↔ Reads (.value document) text rest := by
  constructor
  · exact (reader_sound _).value
  · exact fun reads => reads.found _ (by omega)

end ClipRank.Proofs.JsonReading
