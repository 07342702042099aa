/-!
The characters that count as blank space, and the operations on text that turn
on them.
-/

namespace ClipRank.Text

/-- Whether a character lies in one of some inclusive ranges of scalar values. -/
def inRanges (ranges : List (Nat × Nat)) (c : Char) : Bool :=
  ranges.any fun (first, last) => first ≤ c.toNat && c.toNat ≤ last

/-- The Unicode property White_Space. -/
def blankRanges : List (Nat × Nat) := [
    (0x9, 0xD), (0x20, 0x20), (0x85, 0x85), (0xA0, 0xA0), (0x1680, 0x1680), (0x2000, 0x200A),
    (0x2028, 0x2029), (0x202F, 0x202F), (0x205F, 0x205F), (0x3000, 0x3000)]

def isBlank (c : Char) : Bool :=
  inRanges blankRanges c

def trimStart (text : List Char) : List Char :=
  text.dropWhile isBlank

def trimEnd (text : List Char) : List Char :=
  (text.reverse.dropWhile isBlank).reverse

/-- A text without the blanks at its ends. -/
def trim (text : String) : String :=
  String.ofList (trimEnd (trimStart text.toList))

/-- Every run of blanks written as one space. -/
def collapse : List Char → List Char
  | [] => []
  | c :: rest =>
    if isBlank c then
      match rest with
      | next :: _ => if isBlank next then collapse rest else ' ' :: collapse rest
      | [] => [' ']
    else c :: collapse rest

end ClipRank.Text
