import ClipRank.Proofs.SpanGrammar

/-! The spans of a text. Read from the left, a text consists of what stands outside of
braces and of balanced text in braces, up to a brace that is never closed. The spans are
the balanced parts in their order, each with the bytes before it, and nothing else. -/

namespace ClipRank.Proofs.TopLevelSpans
open ClipRank.Span SpanGrammar

/-- The brace before the text is closed in it. -/
def Closes (text : List Char) : Prop :=
  ∃ inner rest, Balanced inner ∧ text = inner ++ '\x7d' :: rest

/-- No span that is open before the text is closed in it. -/
private def StaysOpen (quote : Quote) (text : List Char) : Prop :=
  ∀ start depth reversed position, scan (some ⟨start, depth, quote, reversed⟩) position text = []

private theorem quotes_close (text : List Char) :
    ((∃ body rest, Quoted body ∧ text = body ++ '"' :: rest) ∨ StaysOpen .inside text) ∧
      ((∃ c body rest, Quoted body ∧ text = c :: (body ++ '"' :: rest)) ∨ StaysOpen .escaped text) := by
  induction text with
  | nil =>
    constructor <;> exact Or.inr fun _ _ _ _ => rfl
  | cons c text ih =>
    obtain ⟨inside, escaped⟩ := ih
    constructor
    · by_cases backslash : c = '\\'
      · subst backslash
        rcases escaped with ⟨d, body, rest, quoted, rfl⟩ | unclosed
        · exact Or.inl ⟨'\\' :: d :: body, rest, .escaped quoted, rfl⟩
        · right
          intro start depth reversed position
          simp [scan, Partial.read, unclosed _ _ _ _]
      · by_cases quote : c = '"'
        · subst quote
          exact Or.inl ⟨[], text, .nil, rfl⟩
        · rcases inside with ⟨body, rest, quoted, rfl⟩ | unclosed
          · exact Or.inl ⟨c :: body, rest, .plain quote backslash quoted, rfl⟩
          · right
            intro start depth reversed position
            simp [scan, Partial.read, backslash, quote, unclosed _ _ _ _]
    · rcases inside with ⟨body, rest, quoted, rfl⟩ | unclosed
      · exact Or.inl ⟨c, body, rest, quoted, rfl⟩
      · right
        intro start depth reversed position
        simp [scan, Partial.read, unclosed _ _ _ _]

private theorem closes_append {first rest : List Char} (balanced : Balanced first)
    (outcome : Closes rest ∨ StaysOpen .outside rest) : Closes (first ++ rest) ∨ StaysOpen .outside (first ++ rest) := by
  rcases outcome with ⟨inner, after, others, rfl⟩ | unclosed
  · exact Or.inl ⟨first ++ inner, after, balanced.append others, by simp⟩
  · right
    intro start depth reversed position
    rw [scan_advance (advance_balanced balanced)]
    exact unclosed _ _ _ _

private theorem closes_or_stays (text : List Char) : Closes text ∨ StaysOpen .outside text := by
  -- What is tried next is what follows a balanced part, which can be a long one.
  induction size : text.length using Nat.strongRecOn generalizing text with
  | ind size ih =>
  subst size
  cases text with
  | nil => exact Or.inr fun _ _ _ _ => rfl
  | cons c text =>
    by_cases quote : c = '"'
    · subst quote
      rcases (quotes_close text).1 with ⟨body, rest, quoted, rfl⟩ | unclosed
      · have outcome := closes_append (.quoted quoted .nil) (ih rest.length (by simp; omega) rest rfl)
        simpa using outcome
      · right
        intro start depth reversed position
        simp [scan, Partial.read, unclosed _ _ _ _]
    · by_cases opening : c = '\x7b'
      · subst opening
        rcases ih text.length (by simp) text rfl with ⟨inner, rest, balanced, rfl⟩ | unclosed
        · have outcome := closes_append (.braces balanced .nil) (ih rest.length (by simp; omega) rest rfl)
          simpa using outcome
        · right
          intro start depth reversed position
          simp [scan, Partial.read, unclosed _ _ _ _]
      · by_cases closing : c = '\x7d'
        · subst closing
          exact Or.inl ⟨[], text, .nil, rfl⟩
        · exact closes_append (.plain ⟨quote, opening, closing⟩ .nil) (ih text.length (by simp) text rfl)

/-- A text from some byte on, parted into its spans and what stands between them. -/
inductive Parted : Nat → List Char → List Span → Prop where
  | nil {position} : Parted position [] []
  | outside {position c text spans} (other : c ≠ '\x7b') (rest : Parted (position + c.utf8Size) text spans) :
      Parted position (c :: text) spans
  | braces {position inner text spans} (balanced : Balanced inner)
      (rest : Parted (position + byteLength ('\x7b' :: (inner ++ ['\x7d']))) text spans) :
      Parted position ('\x7b' :: (inner ++ '\x7d' :: text)) (⟨position, '\x7b' :: (inner ++ ['\x7d'])⟩ :: spans)
  | unclosed {position text} (never : ¬ Closes text) : Parted position ('\x7b' :: text) []

theorem scan_parted (position : Nat) (text : List Char) : Parted position text (scan none position text) := by
  induction size : text.length using Nat.strongRecOn generalizing position text with
  | ind size ih =>
  subst size
  cases text with
  | nil => exact .nil
  | cons c text =>
    by_cases opening : c = '\x7b'
    · subst opening
      by_cases closes : Closes text
      · obtain ⟨inner, rest, balanced, rfl⟩ := closes
        rw [scan_object balanced]
        exact .braces balanced (ih rest.length (by simp; omega) _ rest rfl)
      · have unclosed := (closes_or_stays text).resolve_left closes
        have nothing : scan none position ('\x7b' :: text) = [] := unclosed _ _ _ _
        rw [nothing]
        exact .unclosed closes
    · have passed : scan none position (c :: text) = scan none (position + c.utf8Size) text := by
        simp [scan, opening]
      rw [passed]
      exact .outside opening (ih text.length (by simp) _ text rfl)

/-- Text after which no brace is open. -/
inductive Level : List Char → Prop where
  | nil : Level []
  | outside {c text} (other : c ≠ '\x7b') (rest : Level text) : Level (c :: text)
  | braces {inner text} (balanced : Balanced inner) (rest : Level text) :
      Level ('\x7b' :: (inner ++ '\x7d' :: text))

/-- Balanced text in braces that are not within others. -/
structure TopLevel (text : List Char) (span : Span) : Prop where
  placed : ∃ before after, text = before ++ span.body ++ after ∧ span.start = byteLength before ∧ Level before
  braces : ∃ inner, span.body = '\x7b' :: (inner ++ ['\x7d']) ∧ Balanced inner

variable {position : Nat} {text : List Char} {spans : List Span} {span : Span}

/-- Spans follow each other, and the text between them belongs to none. -/
theorem Parted.sorted (parted : Parted position text spans) :
    spans.Pairwise (fun first second => first.finish ≤ second.start) ∧ ∀ span ∈ spans, position ≤ span.start := by
  induction parted with
  | nil | unclosed => simp
  | outside _ _ ih =>
    obtain ⟨sorted, above⟩ := ih
    exact ⟨sorted, fun span member => Nat.le_trans (Nat.le_add_right _ _) (above span member)⟩
  | braces _ _ ih =>
    obtain ⟨sorted, above⟩ := ih
    refine ⟨List.pairwise_cons.mpr ⟨above, sorted⟩, ?_⟩
    intro span member
    rcases List.mem_cons.mp member with rfl | later
    · exact Nat.le_refl _
    · exact Nat.le_trans (Nat.le_add_right _ _) (above span later)

private theorem Parted.placed (parted : Parted position text spans) (member : span ∈ spans) :
    (∃ before after, text = before ++ span.body ++ after ∧ span.start = position + byteLength before ∧ Level before) ∧
      ∃ inner, span.body = '\x7b' :: (inner ++ ['\x7d']) ∧ Balanced inner := by
  induction parted with
  | nil | unclosed => simp at member
  | outside other _ ih =>
    obtain ⟨⟨before, after, rfl, start, level⟩, braces⟩ := ih member
    exact ⟨⟨_ :: before, after, by simp, by simp [start, byteLength, Nat.add_assoc], .outside other level⟩, braces⟩
  | @braces position inner text spans balanced _ ih =>
    rcases List.mem_cons.mp member with rfl | later
    · exact ⟨⟨[], text, by simp, by simp [byteLength], .nil⟩, inner, rfl, balanced⟩
    · obtain ⟨⟨before, after, rfl, start, level⟩, braces⟩ := ih later
      refine ⟨⟨'\x7b' :: (inner ++ '\x7d' :: before), after, by simp, ?_, .braces balanced level⟩, braces⟩
      rw [start]
      simp [byteLength, byteLength_append, Nat.add_assoc]

/-- What is found after text that leaves no brace open is also found in the whole. -/
private theorem Level.mem_scan {before : List Char} (level : Level before)
    (member : span ∈ scan none (position + byteLength before) text) : span ∈ scan none position (before ++ text) := by
  induction level generalizing position with
  | nil => exact member
  | outside other _ ih =>
    simp only [List.cons_append, scan, other, if_false]
    apply ih
    simpa only [byteLength, Nat.add_assoc] using member
  | @braces inner before balanced _ ih =>
    have split : '\x7b' :: (inner ++ '\x7d' :: before) ++ text = '\x7b' :: (inner ++ '\x7d' :: (before ++ text)) := by simp
    rw [split, scan_object balanced]
    apply List.mem_cons_of_mem
    apply ih
    simpa [byteLength, byteLength_append, Nat.add_assoc] using member

theorem mem_ofText_iff : span ∈ ofText text ↔ TopLevel text span := by
  constructor
  · intro member
    obtain ⟨⟨before, after, split, start, level⟩, braces⟩ := (scan_parted 0 text).placed member
    exact ⟨⟨before, after, split, by rw [start, Nat.zero_add], level⟩, braces⟩
  · rintro ⟨⟨before, after, rfl, start, level⟩, inner, body, balanced⟩
    obtain ⟨start', body'⟩ := span
    dsimp only at start body
    subst start body
    rw [List.append_assoc]
    apply level.mem_scan
    simp [scan_object balanced]

theorem ofText_sorted (text : List Char) : (ofText text).Pairwise fun first second => first.finish ≤ second.start :=
  (scan_parted 0 text).sorted.1

end ClipRank.Proofs.TopLevelSpans
