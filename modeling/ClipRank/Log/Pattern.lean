/-!
The patterns that the value of a log field may have to match. Values are known only
inside of spans, so all that is asked of a pattern here is whether it is one.
-/

namespace ClipRank.LogPattern

/-- The letters that mean something after a backslash. -/
def escapeLetters : List Char :=
  "dDsSwWnrtafvxuUpPAz".toList

/-- Whether a character may follow a backslash. The borders of words are not to be had. -/
def isEscape (c : Char) : Bool :=
  escapeLetters.contains c ||
    (0x20 < c.toNat && c.toNat < 0x7F && !c.isAlphanum && c != '<' && c != '>')

/-- What follows a class of characters. A bracket that comes first does not close it, and
classes may stand inside of classes. -/
def afterClass : Nat → Bool → List Char → Option (List Char)
  | _, _, [] => none
  | depth, isFirst, '^' :: rest => afterClass depth isFirst rest
  | depth, _, '\\' :: c :: rest => if isEscape c then afterClass depth false rest else none
  | depth, _, '[' :: rest => afterClass (depth + 1) true rest
  | depth, isFirst, ']' :: rest =>
    if isFirst then afterClass depth false rest
    else if depth = 0 then some rest
    else afterClass (depth - 1) false rest
  | depth, _, _ :: rest => afterClass depth false rest

/-- What a group begins with after its question mark: a name or flags. -/
def groupHead? (text : List Char) : Option (List Char) :=
  let named (text : List Char) : Option (List Char) :=
    let name := text.takeWhile fun c => c.isAlphanum || c = '_'
    match text.drop name.length with
    | '>' :: rest => if name.head?.any Char.isDigit ∨ name = [] then none else some rest
    | _ => none
  match text with
  | '<' :: rest | 'P' :: '<' :: rest => named rest
  | text =>
    let flags := text.takeWhile fun c => "imsUuxR-".toList.contains c
    match text.drop flags.length with
    | ':' :: rest => if flags.getLast? = some '-' then none else some rest
    | ')' :: rest => if flags = [] ∨ flags.getLast? = some '-' then none else some (')' :: rest)
    | _ => none

/-- Whether a text goes on as a pattern with so many groups open. A sign of repetition
needs something to repeat. -/
def continues : Nat → Nat → Bool → List Char → Bool
  | _, depth, _, [] => depth = 0
  | 0, _, _, _ => false
  | fuel + 1, depth, repeatable, c :: rest =>
    if c = '\\' then
      match rest with
      | next :: rest => isEscape next && continues fuel depth true rest
      | [] => false
    else if c = '(' then
      match rest with
      | '?' :: head =>
        match groupHead? head with
        | some (')' :: rest) => continues fuel depth false rest
        | some rest => continues fuel (depth + 1) false rest
        | none => false
      | rest => continues fuel (depth + 1) false rest
    else if c = ')' then depth != 0 && continues fuel (depth - 1) true rest
    else if c = '[' then
      match afterClass 0 true rest with
      | some rest => continues fuel depth true rest
      | none => false
    else if c = '|' then continues fuel depth false rest
    else if c = '*' ∨ c = '+' ∨ c = '?' then repeatable && continues fuel depth true rest
    else c != '\x7b' && continues fuel depth true rest

/-- Every step takes a character at least. -/
def isWellFormed (text : List Char) : Bool :=
  continues text.length 0 false text

end ClipRank.LogPattern
