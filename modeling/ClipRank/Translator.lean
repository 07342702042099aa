import ClipRank.Text.Blank

/-!
Questions and the translators that turn them into text, which should hold a
query. Nothing is assumed of that text.
-/

namespace ClipRank

/-- Why a question is refused. -/
inductive QuestionFault where
  | empty
  | tooLong
deriving Repr, DecidableEq

namespace QuestionFault

def message : QuestionFault → String
  | empty => "question is empty"
  | tooLong => "question exceeds 500 characters"

end QuestionFault

namespace Question

/-- The longest accepted question, in characters. -/
def limit : Nat := 500

/-- The question without the blanks around it. -/
def read (text : String) : Except QuestionFault String :=
  let question := Text.trim text
  if question = "" then .error .empty
  else if limit < question.length then .error .tooLong
  else .ok question

end Question

/-- Why a translator has no reply. -/
inductive TranslatorFault where
  | disabled
  | unavailable (reason : String)
  | empty
deriving Repr, DecidableEq

namespace TranslatorFault

def message : TranslatorFault → String
  | disabled => "translator is disabled"
  | unavailable reason => "translator unavailable: " ++ reason
  | empty => "translator returned an empty response"

end TranslatorFault

structure Translator where
  name : String
  translate : String → Except TranslatorFault String

namespace Translator

/-- Refuses every question. -/
def disabled : Translator :=
  ⟨"disabled", fun _ => .error .disabled⟩

/-- Gives the same reply to every question. -/
def fixed (reply : String) : Translator :=
  ⟨"mock", fun _ => .ok reply⟩

/-- The reply of the translator that stands in for a model. -/
def sampleReply : String :=
  "\x7b\"sort\": \x7b\"field\": \"score\", \"order\": \"desc\"\x7d, \"limit\": 10, " ++
    "\"explanation\": \"Top videos by overall score (mock)\"\x7d"

def sample : Translator :=
  fixed sampleReply

end Translator

end ClipRank
