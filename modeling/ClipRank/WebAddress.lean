/-!
Addresses of web services in normal form: scheme and host in lower case, no number
behind the host that the scheme implies, no dots as steps of the path, and only
characters that may travel in a request.
-/

namespace ClipRank.WebAddress

def hexDigit (value : Nat) : Char :=
  if value < 10 then Char.ofNat (48 + value) else Char.ofNat (55 + value)

/-- A percent sign and two digits for each byte of a character. -/
def escape (c : Char) : List Char :=
  (String.singleton c).toUTF8.toList.flatMap fun byte =>
    ['%', hexDigit (byte.toNat / 16), hexDigit (byte.toNat % 16)]

/-- Escapes controls, everything beyond ASCII, and the characters given. -/
def escapeAll (reserved : List Char) (text : List Char) : List Char :=
  text.flatMap fun c => if c.toNat < 32 ∨ 126 < c.toNat ∨ c ∈ reserved then escape c else [c]

def isSlash (c : Char) : Bool :=
  c = '/' || c = '\\'

/-- Whether a step of a path stays where it is. -/
def isHere (step : List Char) : Bool :=
  step.map Char.toLower ∈ [['.'], ['%', '2', 'e']]

/-- Whether a step of a path goes back by one. -/
def isBack (step : List Char) : Bool :=
  step.map Char.toLower ∈
    [['.', '.'], ['.', '%', '2', 'e'], ['%', '2', 'e', '.'], ['%', '2', 'e', '%', '2', 'e']]

/-- Takes the steps of a path after those already taken, which stand in reverse. A path
that ends in dots ends in a slash. -/
def walk (taken : List (List Char)) : List (List Char) → List (List Char)
  | [] => taken.reverse
  | [last] =>
    if isHere last then ([] :: taken).reverse
    else if isBack last then ([] :: taken.drop 1).reverse
    else (last :: taken).reverse
  | step :: rest =>
    if isHere step then walk taken rest
    else if isBack step then walk (taken.drop 1) rest
    else walk (step :: taken) rest

def path (text : List Char) : List Char :=
  let steps := (text.drop 1).splitOnP isSlash
  let escaped := steps.map (escapeAll [' ', '"', '<', '>', '\x60', '#', '?', '\x7b', '\x7d'])
  (walk [] escaped).flatMap ('/' :: ·)

def isHostCharacter (c : Char) : Bool :=
  32 < c.toNat && c.toNat ≠ 127 && !" #%/:<>?@[\\]^|".toList.contains c

def host? (text : List Char) : Option (List Char) :=
  if text.isEmpty then none
  else if text.head? = some '[' then if text.getLast? = some ']' then some text else none
  else if text.all isHostCharacter then some (text.map Char.toLower) else none

/-- The number behind a host, after its colon, or nothing for the one that the scheme implies. -/
def number? (standard : Nat) (digits : List Char) : Option (List Char) :=
  if digits.isEmpty then some []
  else if !digits.all Char.isDigit then none
  else
    let number := digits.foldl (fun value c => 10 * value + (c.toNat - 48)) 0
    if 65535 < number then none
    else if number = standard then some []
    else some (':' :: Nat.toDigits 10 number)

/-- A host and the number behind it. -/
def authority? (standard : Nat) (text : List Char) : Option (List Char) := do
  let reversed := text.reverse
  let digits := (reversed.takeWhile fun c => c ≠ ':' && c ≠ ']').reverse
  if digits.length < text.length ∧ reversed[digits.length]? = some ':' then
    return (← host? (text.take (text.length - digits.length - 1))) ++ (← number? standard digits)
  else host? text

/-- The part behind a mark, escaped and with its mark, or nothing if the mark is not there. -/
def tail (reserved : List Char) : List Char → List Char
  | [] => []
  | mark :: rest => mark :: escapeAll reserved rest

/-- The normal form of an address, if it is one. -/
def normalize? (text : String) : Option String := do
  let shown := (text.toList.dropWhile (·.toNat ≤ 32)).reverse.dropWhile (·.toNat ≤ 32)
  let cleaned := shown.reverse.filter fun c => c ≠ '\t' && c ≠ '\n' && c ≠ '\r'
  let scheme := (cleaned.takeWhile (· ≠ ':')).map Char.toLower
  let standard ← if scheme = "http".toList then some 80 else if scheme = "https".toList then some 443 else none
  let rest ← match cleaned.dropWhile (· ≠ ':') with
    | [] => none
    | _ :: rest => some (rest.dropWhile isSlash)
  let isMark (c : Char) : Bool := c = '?' || c = '#'
  let authority ← authority? standard (rest.takeWhile fun c => !isSlash c && !isMark c)
  let rest := rest.dropWhile fun c => !isSlash c && !isMark c
  let query := tail [' ', '"', '#', '<', '>', '\''] ((rest.dropWhile (!isMark ·)).takeWhile (· ≠ '#'))
  let fragment := tail [' ', '"', '<', '>', '\x60'] (rest.dropWhile (· ≠ '#'))
  return String.ofList <|
    scheme ++ "://".toList ++ authority ++ path (rest.takeWhile (!isMark ·)) ++ query ++ fragment

end ClipRank.WebAddress
