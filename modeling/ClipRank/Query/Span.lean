/-!
Spans of text from an opening brace to the brace that closes it. Braces within
double quotes do not count, and a backslash within quotes takes away the meaning
of the character after it. Quotes outside of braces mean nothing.
-/

namespace ClipRank

structure Span where
  /-- The bytes of UTF-8 before the span. -/
  start : Nat
  body : List Char

namespace Span

/-- The bytes of a text in UTF-8. -/
def byteLength : List Char → Nat
  | [] => 0
  | c :: rest => c.utf8Size + byteLength rest

def finish (span : Span) : Nat :=
  span.start + byteLength span.body

/-- Where the reader of a span stands with respect to quotes. -/
inductive Quote where
  | outside
  | inside
  /-- Inside, after a backslash. -/
  | escaped

/-- A span that is not closed yet. -/
structure Partial where
  start : Nat
  /-- The braces open within the first one. -/
  depth : Nat
  quote : Quote
  /-- The characters read, the last one first. -/
  reversed : List Char

/-- Reads one more character, which may close the span. -/
def Partial.read (opened : Partial) (c : Char) : Partial ⊕ Span :=
  let read := { opened with reversed := c :: opened.reversed }
  match opened.quote with
  | .escaped => .inl { read with quote := .inside }
  | .inside =>
    if c = '\\' then .inl { read with quote := .escaped }
    else if c = '"' then .inl { read with quote := .outside }
    else .inl read
  | .outside =>
    if c = '"' then .inl { read with quote := .inside }
    else if c = '\x7b' then .inl { read with depth := opened.depth + 1 }
    else if c = '\x7d' then
      match opened.depth with
      | 0 => .inr ⟨opened.start, (c :: opened.reversed).reverse⟩
      | depth + 1 => .inl { read with depth }
    else .inl read

/-- The spans of a text from some byte on, with the one that is open there. -/
def scan : Option Partial → Nat → List Char → List Span
  | _, _, [] => []
  | none, position, c :: rest =>
    let opened := if c = '\x7b' then some ⟨position, 0, .outside, [c]⟩ else none
    scan opened (position + c.utf8Size) rest
  | some opened, position, c :: rest =>
    match opened.read c with
    | .inl opened => scan (some opened) (position + c.utf8Size) rest
    | .inr span => span :: scan none (position + c.utf8Size) rest

/-- The spans that are not within another one. -/
def ofText (text : List Char) : List Span :=
  scan none 0 text

end Span

end ClipRank
