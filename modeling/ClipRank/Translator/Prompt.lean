import ClipRank.Query.Basic

/-!
What the model is told: the fields that a query may name, the operators, and some
questions with the queries that answer them.
-/

namespace ClipRank

/-- What a field holds. -/
inductive FieldKind where
  | text
  | number
  | flag
deriving Repr, DecidableEq

namespace FieldKind

def name : FieldKind → String
  | text => "string"
  | number => "number"
  | flag => "boolean"

end FieldKind

/-- A field of the vocabulary that the model is given. -/
structure KnownField where
  path : String
  kind : FieldKind
  description : String
deriving Repr, DecidableEq

namespace KnownField

def all : List KnownField := [
  ⟨"title", .text, "video title"⟩,
  ⟨"days", .number, "days since upload (0 = today, 1 = yesterday, 365 = one year ago; higher = older)"⟩,
  ⟨"duration", .number, "video length in seconds"⟩,
  ⟨"views", .number, "view count"⟩,
  ⟨"likes", .number, "like count"⟩,
  ⟨"comments", .number, "comment count"⟩,
  ⟨"score", .number, "0-100 overall performance score"⟩,
  ⟨"isShort", .flag, "true for videos of 60 seconds or less"⟩,
  ⟨"grade", .text, "excellent | very_good | good | fair | low"⟩,
  ⟨"rates.viewsPerDay", .number, "views per day since upload"⟩,
  ⟨"rates.viewsPerMinute", .number, "views per minute of content"⟩,
  ⟨"rates.engagementRate", .number, "likes + 5x comments per 1000 views"⟩,
  ⟨"rates.likeRate", .number, "likes per 1000 views"⟩,
  ⟨"rates.commentRate", .number, "comments per 1000 views"⟩,
  ⟨"components.reach", .number, "0-100 reach sub-score"⟩,
  ⟨"components.engagement", .number, "0-100 engagement sub-score"⟩,
  ⟨"components.consistency", .number, "0-100 consistency sub-score"⟩,
  ⟨"components.community", .number, "0-100 community sub-score"⟩]

/-- The line of the prompt for a field. -/
def line (field : KnownField) : String :=
  "- " ++ field.path ++ ": " ++ field.kind.name ++ " (" ++ field.description ++ ")"

end KnownField

namespace Prompt

/-- Questions with the queries that answer them. -/
def examples : List (String × String) := [
  ("most viewed video",
    "\x7b \"sort\": \x7b \"field\": \"views\", \"order\": \"desc\" \x7d, \"limit\": 1, " ++
      "\"explanation\": \"Video with the highest view count\" \x7d"),
  ("videos from last week",
    "\x7b \"filters\": \x7b \"days\": \x7b \"lte\": 7 \x7d \x7d, " ++
      "\"explanation\": \"All videos uploaded in the last 7 days\" \x7d"),
  ("videos over 1 million views",
    "\x7b \"filters\": \x7b \"views\": \x7b \"gte\": 1000000 \x7d \x7d, " ++
      "\"explanation\": \"All videos with 1M+ views\" \x7d"),
  ("longest video",
    "\x7b \"sort\": \x7b \"field\": \"duration\", \"order\": \"desc\" \x7d, \"limit\": 1, " ++
      "\"explanation\": \"Video with the longest duration\" \x7d"),
  ("oldest videos",
    "\x7b \"sort\": \x7b \"field\": \"days\", \"order\": \"desc\" \x7d, " ++
      "\"explanation\": \"Videos sorted by age, oldest first\" \x7d"),
  ("newest videos",
    "\x7b \"sort\": \x7b \"field\": \"days\", \"order\": \"asc\" \x7d, " ++
      "\"explanation\": \"Videos sorted by age, newest first\" \x7d"),
  ("hidden gems",
    "\x7b \"sort\": \x7b \"field\": \"views\", \"order\": \"asc\" \x7d, \"limit\": 20, " ++
      "\"explanation\": \"Videos with the lowest views\" \x7d"),
  ("high engagement low views",
    "\x7b \"sort\": \x7b \"field\": \"rates.engagementRate\", \"order\": \"desc\" \x7d, " ++
      "\"filters\": \x7b \"views\": \x7b \"lt\": 100000 \x7d \x7d, \"limit\": 20, " ++
      "\"explanation\": \"High engagement videos with under 100K views\" \x7d")]

/-- Words for times, and the ages in days that they stand for. -/
def times : List (String × String) := [
  ("\"today\"", "days == 0"),
  ("\"yesterday\"", "days == 1"),
  ("\"recent\" or \"last week\"", "days <= 7"),
  ("\"last month\"", "days <= 30"),
  ("\"last year\"", "days <= 365")]

/-- The shape of a query. -/
def shapeLines : List String := [
  "Output a JSON object with this structure:",
  "\x7b",
  "  \"filters\": \x7b \"fieldName\": \x7b \"operator\": value \x7d \x7d,",
  "  \"sort\": \x7b \"field\": \"fieldName\", \"order\": \"asc\" | \"desc\" \x7d,",
  "  \"limit\": number,",
  "  \"explanation\": \"Brief explanation of what this query does\"",
  "\x7d"]

/-- The instructions that stand before each question. -/
def system : String :=
  "\n".intercalate <|
    ["You are a query translator for a video analytics app. " ++
        "Convert natural language questions about videos into structured JSON queries.",
      "", "Available video fields:"] ++
    KnownField.all.map KnownField.line ++
    [""] ++ shapeLines ++
    ["", "Operators: " ++ ", ".intercalate (Operator.all.map fun operator => "\"" ++ operator.name ++ "\"") ++
        " (for text fields)",
      "", "Examples:"] ++
    examples.map (fun (question, reply) => "- \"" ++ question ++ "\" -> " ++ reply) ++
    ["", "Time references:"] ++
    times.map (fun (words, age) => "- " ++ words ++ " = " ++ age) ++
    ["", "Output ONLY valid JSON, no markdown, no text outside the JSON."]

end Prompt

end ClipRank
