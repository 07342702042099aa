/-!
Tokens: the words of which the head of a request is made.
-/

namespace ClipRank.Token

def isPart (c : Char) : Bool :=
  c.isAlphanum || "!#$%&'*+-.^_\x60|~".toList.contains c

def isToken (text : String) : Bool :=
  text ≠ "" && text.toList.all isPart

end ClipRank.Token
