import ClipRank.Query.Span

/-! The texts that a span can hold, as a grammar, and how the reader of spans gets
through them: balanced text leaves an open span as it was, whatever its depth. -/

namespace ClipRank.Proofs.SpanGrammar
open ClipRank.Span

/-- A character that neither opens nor closes anything. -/
def Plain (c : Char) : Prop := c ≠ '"' ∧ c ≠ '\x7b' ∧ c ≠ '\x7d'

instance : DecidablePred Plain := fun c => inferInstanceAs (Decidable (c ≠ '"' ∧ c ≠ '\x7b' ∧ c ≠ '\x7d'))

/-- What can stand between two quotes. -/
inductive Quoted : List Char → Prop where
  | nil : Quoted []
  | plain {c text} (noQuote : c ≠ '"') (noBackslash : c ≠ '\\') (rest : Quoted text) : Quoted (c :: text)
  | escaped {c text} (rest : Quoted text) : Quoted ('\\' :: c :: text)

/-- What can stand between two braces that match. -/
inductive Balanced : List Char → Prop where
  | nil : Balanced []
  | plain {c text} (plain : Plain c) (rest : Balanced text) : Balanced (c :: text)
  | quoted {body text} (inside : Quoted body) (rest : Balanced text) : Balanced ('"' :: (body ++ '"' :: text))
  | braces {inner text} (inside : Balanced inner) (rest : Balanced text) :
      Balanced ('\x7b' :: (inner ++ '\x7d' :: text))

theorem Balanced.append {first second : List Char} (balanced : Balanced first) (other : Balanced second) :
    Balanced (first ++ second) := by
  induction balanced with
  | nil => exact other
  | plain plain _ ih => exact .plain plain ih
  | quoted inside _ ih => simpa using Balanced.quoted inside ih
  | braces inside _ _ ih => simpa using Balanced.braces inside ih

theorem Balanced.of_plain {text : List Char} (plain : ∀ c ∈ text, Plain c) : Balanced text := by
  induction text with
  | nil => exact .nil
  | cons c text ih =>
    rw [List.forall_mem_cons] at plain
    exact .plain plain.1 (ih plain.2)

/-- The text goes on with the rest after balanced text. -/
def Takes (text rest : List Char) : Prop :=
  ∃ taken, text = taken ++ rest ∧ Balanced taken

theorem Takes.refl (text : List Char) : Takes text text := ⟨[], rfl, .nil⟩

theorem Takes.trans {text middle rest : List Char} (first : Takes text middle) (second : Takes middle rest) :
    Takes text rest := by
  obtain ⟨taken, rfl, balanced⟩ := first
  obtain ⟨more, rfl, others⟩ := second
  exact ⟨taken ++ more, (List.append_assoc ..).symm, balanced.append others⟩

theorem Takes.cons {c : Char} {text rest : List Char} (plain : Plain c) (others : Takes text rest) :
    Takes (c :: text) rest :=
  Takes.trans ⟨[c], rfl, .plain plain .nil⟩ others

theorem Takes.quoted {body : List Char} (quoted : Quoted body) (rest : List Char) :
    Takes ('"' :: (body ++ '"' :: rest)) rest :=
  ⟨'"' :: (body ++ ['"']), by simp, .quoted quoted .nil⟩

theorem Takes.braces {text rest : List Char} (inside : Takes text ('\x7d' :: rest)) : Takes ('\x7b' :: text) rest := by
  obtain ⟨inner, rfl, balanced⟩ := inside
  exact ⟨'\x7b' :: (inner ++ ['\x7d']), by simp, .braces balanced .nil⟩

theorem Takes.length {text rest : List Char} (takes : Takes text rest) : rest.length ≤ text.length := by
  obtain ⟨taken, rfl, _⟩ := takes
  simp

theorem Takes.filled {text rest : List Char} (takes : Takes text rest) (ends : rest ≠ []) : text ≠ [] := by
  obtain ⟨taken, rfl, _⟩ := takes
  simp [ends]

/-- Reads a text that does not close the span. -/
def advance? (opened : Partial) : List Char → Option Partial
  | [] => some opened
  | c :: rest =>
    match opened.read c with
    | .inl next => advance? next rest
    | .inr _ => none

theorem advance_append (opened : Partial) (first second : List Char) :
    advance? opened (first ++ second) = (advance? opened first).bind (advance? · second) := by
  induction first generalizing opened with
  | nil => rfl
  | cons c rest ih =>
    simp only [List.cons_append, advance?]
    cases opened.read c with
    | inl next => exact ih next
    | inr span => rfl

variable {start depth : Nat} {reversed : List Char}

private theorem advance_quoted {text : List Char} (quoted : Quoted text) :
    advance? ⟨start, depth, .inside, reversed⟩ text = some ⟨start, depth, .inside, text.reverse ++ reversed⟩ := by
  induction quoted generalizing reversed with
  | nil => rfl
  | plain noQuote noBackslash _ ih => simp [advance?, Partial.read, noQuote, noBackslash, ih]
  | escaped _ ih => simp [advance?, Partial.read, ih]

/-- Quotes and braces that open within balanced text also close within it. -/
theorem advance_balanced {text : List Char} (balanced : Balanced text) :
    advance? ⟨start, depth, .outside, reversed⟩ text = some ⟨start, depth, .outside, text.reverse ++ reversed⟩ := by
  induction balanced generalizing depth reversed with
  | nil => rfl
  | plain plain _ ih =>
    obtain ⟨noQuote, noOpening, noClosing⟩ := plain
    simp [advance?, Partial.read, noQuote, noOpening, noClosing, ih]
  | quoted inside _ ih => simp [advance?, advance_append, Partial.read, advance_quoted inside, ih]
  | braces _ _ inner ih => simp [advance?, advance_append, Partial.read, inner, ih]

theorem byteLength_append (first second : List Char) :
    byteLength (first ++ second) = byteLength first + byteLength second := by
  induction first with
  | nil => exact (Nat.zero_add _).symm
  | cons c rest ih => simp only [List.cons_append, byteLength, ih, Nat.add_assoc]

/-- Reading within an open span finds nothing before it closes. -/
theorem scan_advance {opened later : Partial} {text : List Char} (advances : advance? opened text = some later)
    (position : Nat) (rest : List Char) :
    scan (some opened) position (text ++ rest) = scan (some later) (position + byteLength text) rest := by
  induction text generalizing opened position with
  | nil => cases advances; rfl
  | cons c text ih =>
    simp only [advance?] at advances
    cases read : opened.read c with
    | inl next =>
      simp only [read] at advances
      simp only [List.cons_append, scan, read, byteLength, ih advances, Nat.add_assoc]
    | inr span => simp only [read] at advances; cases advances

/-- Balanced text in braces is a span, and the reader is done with it at its end. -/
theorem scan_object {inner : List Char} (balanced : Balanced inner) (position : Nat) (rest : List Char) :
    scan none position ('\x7b' :: (inner ++ '\x7d' :: rest)) =
      ⟨position, '\x7b' :: (inner ++ ['\x7d'])⟩ ::
        scan none (position + byteLength ('\x7b' :: (inner ++ ['\x7d']))) rest := by
  simp [scan, scan_advance (advance_balanced balanced), Partial.read, byteLength, byteLength_append, Nat.add_assoc]

/-- The span that is open at the end of a text. -/
def openAfter : Option Partial → Nat → List Char → Option Partial
  | opened, _, [] => opened
  | none, position, c :: rest =>
    openAfter (if c = '\x7b' then some ⟨position, 0, .outside, [c]⟩ else none) (position + c.utf8Size) rest
  | some opened, position, c :: rest =>
    match opened.read c with
    | .inl opened => openAfter (some opened) (position + c.utf8Size) rest
    | .inr _ => openAfter none (position + c.utf8Size) rest

/-- What is found in a text does not depend on what follows it, and what is found
after it depends on it only by the span left open. -/
theorem scan_append (opened : Option Partial) (position : Nat) (first second : List Char) :
    scan opened position (first ++ second) =
      scan opened position first ++ scan (openAfter opened position first) (position + byteLength first) second := by
  induction first generalizing opened position with
  | nil => cases opened <;> simp [scan, openAfter, byteLength]
  | cons c rest ih =>
    cases opened with
    | none => simp only [List.cons_append, scan, openAfter, byteLength, ih, Nat.add_assoc]
    | some opened =>
      cases read : opened.read c with
      | inl next => simp only [List.cons_append, scan, openAfter, read, byteLength, ih, Nat.add_assoc]
      | inr span => simp only [List.cons_append, scan, openAfter, read, byteLength, ih, Nat.add_assoc]

/-- Without an opening brace nothing opens. -/
theorem scan_without_brace {text : List Char} (braceless : '\x7b' ∉ text) (position : Nat) :
    scan none position text = [] ∧ openAfter none position text = none := by
  induction text generalizing position with
  | nil => exact ⟨rfl, rfl⟩
  | cons c rest ih =>
    rw [List.mem_cons, not_or] at braceless
    simp only [scan, openAfter, Ne.symm braceless.1, if_false]
    exact ih braceless.2 _

end ClipRank.Proofs.SpanGrammar
