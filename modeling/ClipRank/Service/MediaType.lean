import ClipRank.Service.Token

/-!
Media types, as a header gives them: a type, a subtype, and parameters that only
have to be well formed.
-/

namespace ClipRank

structure MediaType where
  kind : List Char
  subtype : List Char
  /-- What follows the last plus sign of the subtype. -/
  extension : Option (List Char)
deriving Repr, DecidableEq

namespace MediaType

/-- Whether a character may stand between quotation marks. -/
def isQuotable (c : Char) : Bool :=
  31 < c.toNat && c.toNat < 127

/-- What follows a quoted value: blanks, up to the next parameter. -/
def afterQuote : List Char → Option (List Char)
  | [] => some []
  | ';' :: rest => some rest
  | ' ' :: rest => afterQuote rest
  | _ => none

/-- What follows the quotation mark that ends a value. -/
def unquote : List Char → Option (List Char)
  | [] => none
  | '"' :: rest => afterQuote rest
  | c :: rest => if isQuotable c then unquote rest else none

/-- What follows the value of a parameter. A value that another parameter follows is
not empty, and neither is a quoted one. -/
def afterValue (text : List Char) : Option (List Char) :=
  match text with
  | '"' :: c :: rest => if isQuotable c then unquote rest else none
  | _ =>
    match text.dropWhile Token.isPart with
    | [] => some []
    | ';' :: rest => if text.head? = some ';' then none else some rest
    | _ => none

/-- What follows the first parameter, blanks before it included. -/
def afterParameter (text : List Char) : Option (List Char) :=
  match text.dropWhile (· = ' ') with
  | [] => some []
  | c :: rest =>
    match rest.dropWhile Token.isPart with
    | '=' :: value => if Token.isPart c then afterValue value else none
    | _ => none

/-- Whether a text is a list of parameters. Each takes a character at least. -/
def parameters : Nat → List Char → Bool
  | _, [] => true
  | 0, _ => false
  | fuel + 1, text =>
    match afterParameter text with
    | some rest => parameters fuel rest
    | none => false

/-- Splits at the last plus sign, if one stands behind the first character. -/
def splitExtension (subtype : List Char) : List Char × Option (List Char) :=
  let extension := (subtype.reverse.takeWhile (· ≠ '+')).reverse
  if extension.length + 1 < subtype.length then
    (subtype.take (subtype.length - extension.length - 1), some extension)
  else (subtype, none)

def parse? (text : String) : Option MediaType :=
  let kind := text.toList.takeWhile Token.isPart
  match text.toList.dropWhile Token.isPart with
  | '/' :: rest =>
    let subtype := rest.takeWhile Token.isPart
    let wellFormed := match rest.dropWhile Token.isPart with
      | [] => true
      | ';' :: rest => !subtype.isEmpty && parameters rest.length rest
      | _ => false
    if kind.isEmpty ∨ !wellFormed then none
    else
      let (subtype, extension) := splitExtension (subtype.map Char.toLower)
      some ⟨kind.map Char.toLower, subtype, extension⟩
  | _ => none

def isJson (media : MediaType) : Bool :=
  media.kind = "application".toList &&
    (media.subtype = "json".toList || media.extension = some "json".toList)

end MediaType

end ClipRank
