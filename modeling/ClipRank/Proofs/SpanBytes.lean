import ClipRank.Proofs.TopLevelSpans

/-! The spans of a text as ranges of its bytes. Objects are told by a grammar over bytes
that knows nothing of characters: every byte of a longer character is above the ASCII
marks, so it can neither open nor close anything. One division of the bytes into gaps and
objects exists, and the spans are the objects in it. -/

namespace ClipRank.Proofs.SpanBytes
open ClipRank.Span SpanGrammar TopLevelSpans

def quote : UInt8 := '"'.toUInt8

def backslash : UInt8 := '\\'.toUInt8

def opening : UInt8 := '\x7b'.toUInt8

def closing : UInt8 := '\x7d'.toUInt8

/-- The bytes of a string between its quotes. -/
inductive StringBytes : List UInt8 → Prop where
  | nil : StringBytes []
  | plain {byte rest} (noQuote : byte ≠ quote) (noBackslash : byte ≠ backslash) (later : StringBytes rest) :
      StringBytes (byte :: rest)
  | escaped {byte rest} (later : StringBytes rest) : StringBytes (backslash :: byte :: rest)

/-- A byte that stands for itself within an object. -/
def Other (byte : UInt8) : Prop := byte ≠ quote ∧ byte ≠ opening ∧ byte ≠ closing

/-- Strings, objects and other bytes after each other. -/
inductive Items : List UInt8 → Prop where
  | nil : Items []
  | other {byte rest} (other : Other byte) (later : Items rest) : Items (byte :: rest)
  | string {body rest} (inside : StringBytes body) (later : Items rest) : Items (quote :: (body ++ quote :: rest))
  | object {inner rest} (inside : Items inner) (later : Items rest) : Items (opening :: (inner ++ closing :: rest))

inductive Object : List UInt8 → Prop where
  | braces {items} (inside : Items items) : Object (opening :: (items ++ [closing]))

/-- Bytes from some offset on, divided into objects and the gaps before them, with the
ranges of the objects. What is left over has no opening brace, or no object starts at the
first one in it. -/
inductive Division : Nat → List UInt8 → List (Nat × Nat) → Prop where
  | rest {offset rest} (free : opening ∉ rest) : Division offset rest []
  | unclosed {offset gap rest} (free : opening ∉ gap)
      (never : ∀ object after, Object object → opening :: rest ≠ object ++ after) :
      Division offset (gap ++ opening :: rest) []
  | object {offset gap object rest ranges} (free : opening ∉ gap) (derived : Object object)
      (later : Division (offset + gap.length + object.length) rest ranges) :
      Division offset (gap ++ (object ++ rest))
        ((offset + gap.length, offset + gap.length + object.length) :: ranges)

def range (span : Span) : Nat × Nat :=
  (span.start, span.finish)

section Encoding

def bytes (text : List Char) : List UInt8 :=
  text.flatMap String.utf8EncodeChar

@[simp]
theorem bytes_nil : bytes [] = [] := rfl

@[simp]
theorem bytes_cons (c : Char) (text : List Char) : bytes (c :: text) = String.utf8EncodeChar c ++ bytes text :=
  List.flatMap_cons

@[simp]
theorem bytes_append (first second : List Char) : bytes (first ++ second) = bytes first ++ bytes second :=
  List.flatMap_append

theorem length_bytes (text : List Char) : (bytes text).length = byteLength text := by
  induction text with
  | nil => rfl
  | cons c text ih => simp [byteLength, ih]

theorem bytes_toList (text : String) : text.toByteArray.data.toList = bytes text.toList := by
  obtain ⟨list, rfl⟩ := text.exists_eq_ofList
  simp [bytes, List.utf8Encode]

/-- Bytes that only go on with a character that began before. -/
def Trailing (bytes : List UInt8) : Prop :=
  ∀ byte ∈ bytes, 128 ≤ byte.toNat

theorem Trailing.nil : Trailing [] :=
  List.forall_mem_nil _

/-- A character is one byte of ASCII, or its bytes are all above ASCII. -/
private theorem encode_cases (c : Char) :
    (c.toNat < 128 ∧ String.utf8EncodeChar c = [c.toUInt8]) ∨ Trailing (String.utf8EncodeChar c) := by
  have code : c.val.toNat = c.toNat := rfl
  unfold Trailing String.utf8EncodeChar
  dsimp only
  split
  next ascii => exact .inl ⟨by omega, rfl⟩
  next =>
    right
    repeat' split
    all_goals
      simp only [List.forall_mem_cons, List.not_mem_nil, false_implies, implies_true, and_true, UInt8.toNat_ofNat']
      omega

section Mark
variable (mark : Char) (ascii : mark.toNat < 128)
include ascii

private theorem byte_toNat : mark.toUInt8.toNat = mark.toNat := by
  change mark.val.toUInt8.toNat = mark.val.toNat
  rw [UInt32.toNat_toUInt8]
  exact Nat.mod_eq_of_lt (Nat.lt_trans ascii (by decide))

private theorem encode_mark : String.utf8EncodeChar mark = [mark.toUInt8] :=
  if_pos (Nat.le_of_lt_succ ascii)

theorem mem_encode {c : Char} : mark.toUInt8 ∈ String.utf8EncodeChar c ↔ c = mark := by
  constructor
  · intro member
    rcases encode_cases c with ⟨small, encoded⟩ | trailing
    · rw [encoded, List.mem_singleton] at member
      have codes := congrArg UInt8.toNat member
      rw [byte_toNat mark ascii, byte_toNat c small] at codes
      exact (Char.toNat_inj.mp codes).symm
    · have above := trailing _ member
      rw [byte_toNat mark ascii] at above
      omega
  · rintro rfl
    rw [encode_mark c ascii]
    exact List.mem_singleton_self _

private theorem byte_ne {c : Char} {byte : UInt8} (member : byte ∈ String.utf8EncodeChar c) (other : c ≠ mark) :
    byte ≠ mark.toUInt8 := by
  rintro rfl
  exact other ((mem_encode mark ascii).mp member)

private theorem char_ne {c : Char} {byte : UInt8} {later : List UInt8}
    (encoded : String.utf8EncodeChar c = byte :: later) (other : byte ≠ mark.toUInt8) : c ≠ mark := by
  rintro rfl
  rw [encode_mark c ascii] at encoded
  cases encoded
  exact other rfl

end Mark

theorem mem_bytes {mark : Char} (ascii : mark.toNat < 128) {text : List Char} : mark.toUInt8 ∈ bytes text ↔ mark ∈ text := by
  simp only [bytes, List.mem_flatMap, mem_encode mark ascii, exists_eq_right]

end Encoding

section Characters
variable {text front rest : List UInt8}

/-- The bytes of a character are other bytes if it is no mark. -/
private theorem other_of_plain {c : Char} (plain : Plain c) : ∀ byte ∈ String.utf8EncodeChar c, Other byte := by
  obtain ⟨noQuote, noOpening, noClosing⟩ := plain
  intro byte member
  exact ⟨byte_ne '"' (by decide) member noQuote, byte_ne '\x7b' (by decide) member noOpening,
    byte_ne '\x7d' (by decide) member noClosing⟩

private theorem Items.append (others : ∀ byte ∈ front, Other byte) (later : Items rest) : Items (front ++ rest) := by
  induction front with
  | nil => exact later
  | cons byte front ih =>
    obtain ⟨other, others⟩ := List.forall_mem_cons.mp others
    exact .other other (ih others)

private theorem StringBytes.append (plain : ∀ byte ∈ front, byte ≠ quote ∧ byte ≠ backslash) (later : StringBytes rest) :
    StringBytes (front ++ rest) := by
  induction front with
  | nil => exact later
  | cons byte front ih =>
    obtain ⟨⟨noQuote, noBackslash⟩, others⟩ := List.forall_mem_cons.mp plain
    exact .plain noQuote noBackslash (ih others)

private theorem trailing_plain (trailing : Trailing front) : ∀ byte ∈ front, byte ≠ quote ∧ byte ≠ backslash := by
  intro byte member
  have above := trailing byte member
  constructor <;> (rintro rfl; exact absurd above (by decide))

/-- A character is a first byte and others that only go on with it. -/
private theorem encode_start (c : Char) :
    ∃ first trailing, String.utf8EncodeChar c = first :: trailing ∧ Trailing trailing := by
  rcases encode_cases c with ⟨_, encoded⟩ | above
  · exact ⟨_, [], encoded, .nil⟩
  · cases encoded : String.utf8EncodeChar c with
    | nil =>
      have length := String.length_utf8EncodeChar c
      rw [encoded] at length
      exact absurd length.symm (Nat.ne_of_gt c.utf8Size_pos)
    | cons first trailing =>
      rw [encoded] at above
      exact ⟨first, trailing, rfl, (List.forall_mem_cons.mp above).2⟩

private theorem quoted_bytes {body : List Char} (quoted : Quoted body) : StringBytes (bytes body) := by
  induction quoted with
  | nil => exact .nil
  | @plain c body noQuote noBackslash _ ih =>
    rw [bytes_cons]
    refine ih.append fun byte member => ⟨?_, ?_⟩
    · exact byte_ne '"' (by decide) member noQuote
    · exact byte_ne '\\' (by decide) member noBackslash
  | @escaped c body _ ih =>
    obtain ⟨first, trailing, encoded, above⟩ := encode_start c
    rw [bytes_cons, bytes_cons, encoded]
    exact .escaped (ih.append (trailing_plain above))

theorem balanced_bytes {inner : List Char} (balanced : Balanced inner) : Items (bytes inner) := by
  induction balanced with
  | nil => exact .nil
  | plain plain _ ih =>
    rw [bytes_cons]
    exact ih.append (other_of_plain plain)
  | @quoted body inner inside _ ih =>
    have split : bytes ('"' :: (body ++ '"' :: inner)) = quote :: (bytes body ++ quote :: bytes inner) := by
      rw [bytes_cons, bytes_append, bytes_cons]
      rfl
    rw [split]
    exact .string (quoted_bytes inside) ih
  | @braces object inner _ _ nested ih =>
    have split : bytes ('\x7b' :: (object ++ '\x7d' :: inner)) = opening :: (bytes object ++ closing :: bytes inner) := by
      rw [bytes_cons, bytes_append, bytes_cons]
      rfl
    rw [split]
    exact .object nested ih

end Characters

section Reading
variable {text : List Char} {front rest : List UInt8} {byte : UInt8}

/-- The next byte goes on with a character, or it begins one. -/
private theorem next_byte (trailing : Trailing front) (same : front ++ bytes text = byte :: rest) :
    (∃ later, front = byte :: later ∧ Trailing later ∧ later ++ bytes text = rest) ∨
      ∃ c after later, front = [] ∧ text = c :: after ∧ String.utf8EncodeChar c = byte :: later ∧ Trailing later ∧
        later ++ bytes after = rest := by
  cases front with
  | cons first later =>
    cases same
    exact .inl ⟨later, rfl, (List.forall_mem_cons.mp trailing).2, rfl⟩
  | nil =>
    cases text with
    | nil => cases same
    | cons c after =>
      obtain ⟨first, later, encoded, above⟩ := encode_start c
      rw [bytes_cons, encoded] at same
      cases same
      exact .inr ⟨c, after, later, rfl, rfl, encoded, above, rfl⟩

/-- The byte of a mark is the mark, and no character goes on with it. -/
private theorem next_mark {mark : Char} (ascii : mark.toNat < 128) (trailing : Trailing front)
    (same : front ++ bytes text = mark.toUInt8 :: rest) :
    ∃ after, front = [] ∧ text = mark :: after ∧ bytes after = rest := by
  rcases next_byte trailing same with ⟨later, rfl, _⟩ | ⟨c, after, later, rfl, rfl, encoded, _, others⟩
  · have above := trailing _ List.mem_cons_self
    rw [byte_toNat mark ascii] at above
    omega
  · obtain rfl : c = mark := (mem_encode mark ascii).mp (encoded ▸ List.mem_cons_self)
    rw [encode_mark c ascii] at encoded
    cases encoded
    exact ⟨after, rfl, rfl, others⟩

private theorem quoted_of_bytes {body : List UInt8} (inside : StringBytes body) (trailing : Trailing front)
    (same : front ++ bytes text = body ++ quote :: rest) :
    ∃ quoted after, text = quoted ++ '"' :: after ∧ Quoted quoted ∧ bytes after = rest := by
  induction inside generalizing front text with
  | nil =>
    obtain ⟨after, rfl, rfl, others⟩ := next_mark (by decide : '"'.toNat < 128) trailing same
    exact ⟨[], after, rfl, .nil, others⟩
  | @plain byte body noQuote noBackslash _ ih =>
    rcases next_byte trailing same with ⟨later, rfl, above, others⟩ | ⟨c, after, later, rfl, rfl, encoded, above, others⟩
    · exact ih above others
    · obtain ⟨quoted, after, rfl, quotedText, last⟩ := ih above others
      refine ⟨c :: quoted, after, rfl, .plain ?_ ?_ quotedText, last⟩
      · exact char_ne '"' (by decide) encoded noQuote
      · exact char_ne '\\' (by decide) encoded noBackslash
  | escaped _ ih =>
    obtain ⟨after, rfl, rfl, others⟩ := next_mark (by decide : '\\'.toNat < 128) trailing same
    rcases next_byte Trailing.nil others with ⟨_, none, _⟩ | ⟨c, after, later, _, rfl, _, above, others⟩
    · cases none
    · obtain ⟨quoted, after, rfl, quotedText, last⟩ := ih above others
      exact ⟨'\\' :: c :: quoted, after, rfl, .escaped quotedText, last⟩

/-- Items that end before a closing brace do not end within a character. -/
private theorem balanced_of_bytes {items : List UInt8} (inside : Items items) (trailing : Trailing front)
    (same : front ++ bytes text = items ++ closing :: rest) :
    ∃ inner after, text = inner ++ '\x7d' :: after ∧ Balanced inner ∧ bytes after = rest := by
  induction inside generalizing front text rest with
  | nil =>
    obtain ⟨after, rfl, rfl, others⟩ := next_mark (by decide : '\x7d'.toNat < 128) trailing same
    exact ⟨[], after, rfl, .nil, others⟩
  | @other byte items other _ ih =>
    rcases next_byte trailing same with ⟨later, rfl, above, others⟩ | ⟨c, after, later, rfl, rfl, encoded, above, others⟩
    · exact ih above others
    · obtain ⟨inner, after, rfl, balanced, last⟩ := ih above others
      have plain : Plain c := ⟨char_ne '"' (by decide) encoded other.1, char_ne '\x7b' (by decide) encoded other.2.1,
        char_ne '\x7d' (by decide) encoded other.2.2⟩
      exact ⟨c :: inner, after, rfl, .plain plain balanced, last⟩
  | @string body items inside _ ih =>
    rw [List.cons_append, List.append_assoc] at same
    obtain ⟨after, rfl, rfl, others⟩ := next_mark (by decide : '"'.toNat < 128) trailing same
    obtain ⟨quoted, after, rfl, quotedText, others⟩ := quoted_of_bytes inside Trailing.nil others
    obtain ⟨inner, after, rfl, balanced, last⟩ := ih Trailing.nil others
    exact ⟨'"' :: (quoted ++ '"' :: inner), after, by simp, .quoted quotedText balanced, last⟩
  | @object inner items _ _ nested ih =>
    rw [List.cons_append, List.append_assoc] at same
    obtain ⟨after, rfl, rfl, others⟩ := next_mark (by decide : '\x7b'.toNat < 128) trailing same
    obtain ⟨object, after, rfl, objectText, others⟩ := nested Trailing.nil others
    obtain ⟨inner, after, rfl, balanced, last⟩ := ih Trailing.nil others
    exact ⟨'\x7b' :: (object ++ '\x7d' :: inner), after, by simp, .braces objectText balanced, last⟩

/-- An object over bytes is one over characters. -/
theorem object_of_bytes {object after : List UInt8} (derived : Object object)
    (same : bytes text = object ++ after) :
    ∃ inner rest, text = '\x7b' :: (inner ++ '\x7d' :: rest) ∧ Balanced inner ∧ bytes rest = after := by
  cases derived with
  | @braces items inside =>
    have start : [] ++ bytes text = opening :: (items ++ closing :: after) := by simpa using same
    obtain ⟨text, _, rfl, others⟩ := next_mark (by decide : '\x7b'.toNat < 128) Trailing.nil start
    obtain ⟨inner, rest, rfl, balanced, last⟩ := balanced_of_bytes inside Trailing.nil others
    exact ⟨inner, rest, rfl, balanced, last⟩

/-- A mark parts the text where it parts the bytes. -/
private theorem split_mark {mark : Char} (ascii : mark.toNat < 128) (same : bytes text = front ++ mark.toUInt8 :: rest) :
    ∃ before after, text = before ++ mark :: after ∧ bytes before = front ∧ bytes after = rest := by
  induction text generalizing front with
  | nil => cases front <;> cases same
  | cons c text ih =>
    rw [bytes_cons] at same
    rcases List.append_eq_append_iff.mp same with ⟨later, rfl, others⟩ | ⟨later, encoded, others⟩
    · obtain ⟨before, after, rfl, first, last⟩ := ih others
      exact ⟨c :: before, after, rfl, by rw [bytes_cons, first], last⟩
    · cases later with
      | nil =>
        have start : bytes text = [] ++ mark.toUInt8 :: rest := others.symm
        obtain ⟨before, after, rfl, first, last⟩ := ih start
        refine ⟨c :: before, after, rfl, ?_, last⟩
        rw [bytes_cons, first, encoded]
        simp
      | cons byte later =>
        cases others
        obtain rfl : c = mark := (mem_encode mark ascii).mp (by rw [encoded]; simp)
        rw [encode_mark c ascii] at encoded
        cases front with
        | nil =>
          cases encoded
          exact ⟨[], text, rfl, rfl, rfl⟩
        | cons first front =>
          have none := (List.cons.inj encoded).2
          exact absurd none.symm (List.append_ne_nil_of_right_ne_nil front (by simp))

end Reading

section Spans
variable {offset : Nat} {text : List Char} {front rest : List UInt8} {ranges : List (Nat × Nat)}

/-- Bytes without an opening brace belong to the gap that follows. -/
private theorem Division.after_gap (free : opening ∉ front) (later : Division (offset + front.length) rest ranges) :
    Division offset (front ++ rest) ranges := by
  have without {gap : List UInt8} (other : opening ∉ gap) : opening ∉ front ++ gap :=
    fun member => (List.mem_append.mp member).elim free other
  cases later with
  | rest others => exact .rest (without others)
  | unclosed others never =>
    rw [← List.append_assoc]
    exact .unclosed (without others) never
  | @object _ gap object rest ranges others derived later =>
    rw [← List.append_assoc, Nat.add_assoc, ← List.length_append]
    refine .object (without others) derived ?_
    rwa [List.length_append, ← Nat.add_assoc]

private theorem Division.object_first {object : List UInt8} (derived : Object object)
    (later : Division (offset + object.length) rest ranges) :
    Division offset (object ++ rest) ((offset, offset + object.length) :: ranges) := by
  have empty : opening ∉ ([] : List UInt8) := List.not_mem_nil
  exact .object empty derived later

private theorem object_bytes {inner : List Char} (balanced : Balanced inner) :
    Object (bytes ('\x7b' :: (inner ++ ['\x7d']))) := by
  have split : bytes ('\x7b' :: (inner ++ ['\x7d'])) = opening :: (bytes inner ++ [closing]) := by
    rw [bytes_cons, bytes_append]
    rfl
  rw [split]
  exact .braces (balanced_bytes balanced)

private theorem division_of_parted {spans : List Span} (parted : Parted offset text spans) :
    Division offset (bytes text) (spans.map range) := by
  induction parted with
  | nil => exact .rest List.not_mem_nil
  | @outside offset c text spans other _ ih =>
    rw [bytes_cons]
    refine .after_gap (fun member => other ((mem_encode '\x7b' (by decide)).mp member)) ?_
    rwa [String.length_utf8EncodeChar]
  | @braces offset inner text spans balanced _ ih =>
    have split : bytes ('\x7b' :: (inner ++ '\x7d' :: text)) = bytes ('\x7b' :: (inner ++ ['\x7d'])) ++ bytes text := by
      rw [← bytes_append]
      simp
    rw [← length_bytes] at ih
    rw [split, List.map_cons, range, Span.finish, ← length_bytes]
    exact .object_first (object_bytes balanced) ih
  | @unclosed offset text never =>
    change Division offset ([] ++ opening :: bytes text) []
    refine .unclosed List.not_mem_nil fun object after derived same => never ?_
    have start : bytes ('\x7b' :: text) = object ++ after := same
    obtain ⟨inner, rest, split, balanced, _⟩ := object_of_bytes derived start
    exact ⟨inner, rest, balanced, (List.cons.inj split).2⟩

/-- The text before an opening brace has none, and is passed over. -/
private theorem scan_gap (offset : Nat) {gap rest : List UInt8} (free : opening ∉ gap) (same : bytes text = gap ++ opening :: rest) :
    ∃ after, bytes ('\x7b' :: after) = opening :: rest ∧
      scan none offset text = scan none (offset + gap.length) ('\x7b' :: after) := by
  obtain ⟨before, after, rfl, rfl, rfl⟩ := split_mark (by decide : '\x7b'.toNat < 128) same
  have braceless : '\x7b' ∉ before := fun member => free ((mem_bytes (by decide)).mpr member)
  obtain ⟨nothing, closed⟩ := scan_without_brace braceless offset
  refine ⟨after, rfl, ?_⟩
  rw [scan_append, nothing, closed, length_bytes, List.nil_append]

/-- There is no other division. -/
private theorem Division.ranges_eq (division : Division offset rest ranges) (same : bytes text = rest) :
    ranges = (scan none offset text).map range := by
  induction division generalizing text with
  | rest free =>
    have braceless : '\x7b' ∉ text := fun member => free (same ▸ (mem_bytes (by decide)).mpr member)
    rw [(scan_without_brace braceless _).1]
    rfl
  | @unclosed offset gap rest free never =>
    obtain ⟨after, same, passed⟩ := scan_gap offset free same
    have parted := scan_parted (offset + gap.length) ('\x7b' :: after)
    rw [passed]
    generalize scan none (offset + gap.length) ('\x7b' :: after) = spans at parted
    cases parted with
    | outside other => exact absurd rfl other
    | unclosed => rfl
    | @braces _ inner after _ balanced =>
      refine absurd ?_ (never _ (bytes after) (object_bytes balanced))
      rw [← same, ← bytes_append]
      simp
  | @object offset gap object rest ranges free derived _ ih =>
    obtain ⟨more, begun⟩ : ∃ more, object ++ rest = opening :: more := by
      cases derived
      exact ⟨_, rfl⟩
    rw [begun] at same
    obtain ⟨after, same, passed⟩ := scan_gap offset free same
    rw [← begun] at same
    obtain ⟨inner, others, split, balanced, last⟩ := object_of_bytes derived same
    rw [split] at same passed
    have whole : object ++ rest = bytes ('\x7b' :: (inner ++ ['\x7d'])) ++ rest := by
      rw [← same, ← last, ← bytes_append]
      simp
    rw [passed, scan_object balanced, List.map_cons, ih last, List.append_cancel_right whole, length_bytes]
    rfl

end Spans

section Slices
variable {text : String} {before body after : List Char}

private theorem size_ofList (text : List Char) : (String.ofList text).utf8ByteSize = byteLength text := by
  rw [← String.size_toByteArray, String.toByteArray_ofList, List.utf8Encode, List.size_toByteArray]
  exact length_bytes text

private theorem valid_offset (split : text.toList = before ++ after) :
    (String.Pos.Raw.mk (byteLength before)).IsValid text := by
  refine String.Pos.Raw.isValid_iff_exists_append.mpr ⟨String.ofList before, String.ofList after, ?_, ?_⟩
  · rw [← String.ofList_append, ← split, String.ofList_toList]
  · rw [String.Pos.Raw.ext_iff, String.byteIdx_rawEndPos, size_ofList]

private theorem extract_body (split : text.toList = before ++ body ++ after) :
    text.toByteArray.extract (byteLength before) (byteLength before + byteLength body) =
      (String.ofList body).toByteArray := by
  have whole : text.toByteArray = (String.ofList before).toByteArray ++
      ((String.ofList body).toByteArray ++ (String.ofList after).toByteArray) := by
    rw [← String.ofList_toList (s := text), split]
    simp
  have extracted (first second : ByteArray) (size : Nat) :
      (first ++ second).extract first.size (first.size + size) = second.extract 0 size :=
    ByteArray.extract_append_size_add (i := 0)
  rw [whole, ← size_ofList before, ← String.size_toByteArray, extracted]
  exact ByteArray.extract_append_eq_left ((size_ofList body).symm.trans (String.size_toByteArray).symm)

end Slices

/-- The spans of a text are the objects of the only division of its bytes. They follow each
other, begin and end between characters, and each holds just the text of its range. -/
theorem spans_divide (text : String) :
    (∀ ranges, Division 0 text.toByteArray.data.toList ranges ↔ ranges = (ofText text.toList).map range) ∧
      (ofText text.toList).Pairwise (fun first second => first.finish ≤ second.start) ∧
      ∀ span ∈ ofText text.toList, span.start < span.finish ∧
        (String.Pos.Raw.mk span.start).IsValid text ∧ (String.Pos.Raw.mk span.finish).IsValid text ∧
        text.toByteArray.extract span.start span.finish = (String.ofList span.body).toByteArray := by
  refine ⟨fun ranges => ⟨fun division => ?_, ?_⟩, ofText_sorted _, fun span member => ?_⟩
  · exact division.ranges_eq (bytes_toList text).symm
  · rintro rfl
    rw [bytes_toList]
    exact division_of_parted (scan_parted 0 text.toList)
  · obtain ⟨⟨before, after, split, start, _⟩, inner, braces, _⟩ := mem_ofText_iff.mp member
    have finish : span.finish = byteLength (before ++ span.body) := by
      rw [Span.finish, start, byteLength_append]
    refine ⟨?_, ?_, ?_, ?_⟩
    · have positive : 0 < '\x7b'.utf8Size := Char.utf8Size_pos _
      rw [Span.finish, braces, byteLength]
      omega
    · rw [start]
      exact valid_offset (split.trans (List.append_assoc ..))
    · rw [finish]
      exact valid_offset split
    · rw [Span.finish, start]
      exact extract_body split

/-- A brace in quotes ends nothing, and the one left open at the end begins nothing. -/
theorem braces_in_quotes_divided :
    Division 0 "é \x7b\"\x7d\"\x7d \x7b".toByteArray.data.toList [(3, 8)] ∧
      (String.Pos.Raw.mk 8).IsValid "é \x7b\"\x7d\"\x7d \x7b" := by
  have found : ofText "é \x7b\"\x7d\"\x7d \x7b".toList = [⟨3, "\x7b\"\x7d\"\x7d".toList⟩] := by rfl
  obtain ⟨divided, _, placed⟩ := spans_divide "é \x7b\"\x7d\"\x7d \x7b"
  refine ⟨(divided _).mpr (by rw [found]; rfl), ?_⟩
  obtain ⟨_, _, finish, _⟩ := placed ⟨3, "\x7b\"\x7d\"\x7d".toList⟩ (by rw [found]; exact List.mem_singleton_self _)
  exact finish

end ClipRank.Proofs.SpanBytes
