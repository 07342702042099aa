import ClipRank.Service.Token

/-!
Request targets. A target is a path with a query at most, an asterisk, a host alone, or
a scheme with a host and a path. Whatever stands behind a number sign is passed over.
-/

namespace ClipRank.Target

def isPathChar (c : Char) : Bool :=
  0x20 < c.toNat && c != '<' && c != '>' && c != '\x60'

def isQueryChar (c : Char) : Bool :=
  0x20 < c.toNat && c != '<' && c != '>' && c != '"'

/-- The path at the start of a text, if it and the query are well formed. -/
def pathOf? (text : List Char) : Option String :=
  let path := text.takeWhile fun c => c ≠ '?' && c ≠ '#'
  let query := match text.drop path.length with
    | '?' :: rest => rest.takeWhile (· ≠ '#')
    | _ => []
  if path.all isPathChar ∧ query.all isQueryChar then some (String.ofList path) else none

/-- What has been seen of a host, of a number after it, and of a user before it. -/
structure Host where
  colons : Nat
  opened : Bool
  closed : Bool
  percent : Bool
  atSign : Bool

namespace Host

def start : Host :=
  ⟨0, false, false, false, false⟩

def isPlain (c : Char) : Bool :=
  c.isAlphanum || "!$&'()*+,-.;=_~".toList.contains c

/-- Takes in one character. What stands before an at sign or in brackets may have colons
and percent signs. -/
def step (host : Host) (c : Char) : Option Host :=
  let host := { host with atSign := false }
  if c = ':' then if 8 ≤ host.colons then none else some { host with colons := host.colons + 1 }
  else if c = '[' then if host.percent ∨ host.opened then none else some { host with opened := true }
  else if c = ']' then
    if !host.opened ∨ host.closed then none
    else some { host with closed := true, colons := 0, percent := false }
  else if c = '@' then some { host with colons := 0, percent := false, atSign := true }
  else if c = '%' then some { host with percent := true }
  else if isPlain c then some host
  else none

def isComplete (host : Host) : Bool :=
  host.opened = host.closed && host.colons ≤ 1 && !host.atSign && !host.percent

/-- Whether a text names a host. -/
def matchesText (text : List Char) : Bool :=
  text ≠ [] && (text.foldlM step start).any isComplete

end Host

def isSchemeChar (c : Char) : Bool :=
  c.isAlphanum || c = '+' || c = '-' || c = '.'

/-- What follows a scheme, if there is one. -/
def afterScheme? (text : List Char) : Option (List Char) :=
  match text.dropWhile isSchemeChar with
  | ':' :: '/' :: '/' :: rest => some rest
  | _ => none

/-- The longest target, in bytes. -/
def lengthLimit : Nat := 65534

/-- The longest scheme. -/
def schemeLimit : Nat := 64

/-- The path of a target with a scheme. Without one it is the root. -/
def absolutePath? (rest : List Char) : Option String :=
  let host := rest.takeWhile fun c => c ≠ '/' && c ≠ '?' && c ≠ '#'
  if Host.matchesText host then
    (pathOf? (rest.drop host.length)).map fun path => if path = "" then "/" else path
  else none

/-- The path of a target, if the target is well formed. -/
def path? (target : String) : Option String :=
  let text := target.toList
  if lengthLimit < target.utf8ByteSize then none
  else if text = ['*'] then some "*"
  else if text.head? = some '/' then pathOf? text
  else
    match afterScheme? text with
    | some rest =>
      if schemeLimit < (text.takeWhile isSchemeChar).length then none else absolutePath? rest
    | none => if Host.matchesText text then some "" else none

end ClipRank.Target
