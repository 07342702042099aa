import ClipRank.Proofs.QueryGrammar
import ClipRank.Proofs.QueryStages

/-! When an answer is empty. An answer says that nothing matched if nothing is left of it
after the limit. That is honest since no query is limited to nothing: a limit of zero is no
limit, whether it is read or set. -/

namespace ClipRank.Proofs.EmptyAnswers
open QueryGrammar QueryStages

/-- The queries that are read from JSON or found in a text, and what is put together from
them or from the empty query. -/
inductive Obtained : Query → Prop where
  | read {value query} (accepted : Query.ofJson value = .ok query) : Obtained query
  | found {text query} (accepted : Query.ofText text = .ok query) : Obtained query
  | empty : Obtained .empty
  | filter {query} (obtained : Obtained query) (field : String) (condition : Condition) :
      Obtained (query.filter field condition)
  | sortedBy {query} (obtained : Obtained query) (field : String) (order : SortOrder) :
      Obtained (query.sortedBy field order)
  | limited {query} (obtained : Obtained query) (count : Nat) : Obtained (query.limited count)

variable {query : Query}

private theorem read_limit {value : Json} (accepted : Query.ofJson value = .ok query) : query.limit ≠ some 0 := by
  obtain ⟨members, rfl, means⟩ := ofJson_iff.mp accepted
  intro nothing
  exact absurd ((means.limit 0).mp nothing).bounds.1 (by decide)

private theorem limited_limit (count : Nat) : (query.limited count).limit ≠ some 0 := by
  intro nothing
  obtain ⟨positive, same⟩ := Option.ite_none_right_eq_some.mp nothing
  obtain rfl := Option.some.inj same
  exact absurd positive (by decide)

theorem Obtained.limit (obtained : Obtained query) : query.limit ≠ some 0 := by
  induction obtained with
  | read accepted => exact read_limit accepted
  | found accepted =>
    obtain ⟨value, _, read⟩ := ofText_iff.mp accepted
    exact read_limit read
  | empty => exact nofun
  | filter _ _ _ ih | sortedBy _ _ _ ih => exact ih
  | limited _ count => exact limited_limit count

section Answers
variable (records : List (ScoredRecord Float))

private theorem cut_eq_nil {limit : Option Nat} (nonzero : limit ≠ some 0) (records : List (ScoredRecord Float)) :
    cut limit records = [] ↔ records = [] := by
  cases limit with
  | none => rfl
  | some count =>
    have positive : count ≠ 0 := fun zero => nonzero (congrArg some zero)
    simp [cut, positive]

private theorem empty_iff_unmatched (nonzero : query.limit ≠ some 0) :
    (query.execute records).records = [] ↔ (query.execute records).total = 0 := by
  rw [execute_records, cut_eq_nil nonzero, execute_total, ← List.length_eq_zero_iff, length_arrange]

private theorem total_zero_iff : (query.execute records).total = 0 ↔
    ∀ record ∈ records, ¬ ∀ filter ∈ query.filters,
      filter.condition.holds (Path.resolve? record.toJson filter.field) = true := by
  rw [execute_total, List.length_eq_zero_iff, narrow, List.filter_eq_nil_iff]
  simp only [List.all_eq_true]

/-- What is said of a query that nothing matches. -/
def nothingFound (query : Query) : String :=
  query.explanation.elim Query.noMatches fun text => Query.noMatches ++ " (" ++ text ++ ")"

private theorem explanation_unquoted {text : String} (explained : query.explanation = some text) :
    nothingFound query ≠ text := by
  intro same
  have quoted : nothingFound query = Query.noMatches ++ " (" ++ text ++ ")" := by
    rw [nothingFound, explained, Option.elim_some]
  -- A text that quotes another is the longer one.
  have lengths := congrArg String.length (quoted.symm.trans same)
  simp only [String.length_append] at lengths
  have mark : ")".length = 1 := rfl
  omega

private theorem explain_iff (empty : Bool) : query.explain empty = some (nothingFound query) ↔ empty = true := by
  cases empty with
  | true =>
    rw [iff_true_right rfl, nothingFound]
    cases explained : query.explanation <;> simp only [Query.explain, explained] <;> rfl
  | false => exact iff_of_false (fun quoted => explanation_unquoted quoted rfl) Bool.false_ne_true

/-- No query that is read or put together has a limit of zero. So its answer is empty just
when no record meets its filters, and just then it says so. -/
theorem empty_when_unmatched (obtained : Obtained query) :
    query.limit ≠ some 0 ∧ ∀ records,
      ((query.execute records).records = [] ↔ (query.execute records).total = 0) ∧
      ((query.execute records).total = 0 ↔ ∀ record ∈ records, ¬ ∀ filter ∈ query.filters,
        filter.condition.holds (Path.resolve? record.toJson filter.field) = true) ∧
      ((query.execute records).explanation = some (nothingFound query) ↔ (query.execute records).total = 0) ∧
      ((query.execute records).total ≠ 0 → (query.execute records).explanation = query.explanation) := by
  refine ⟨obtained.limit, fun records => ?_⟩
  have empty := empty_iff_unmatched records obtained.limit
  refine ⟨empty, total_zero_iff records, ?_, fun matched => ?_⟩
  · rw [execute_explanation, explain_iff, List.isEmpty_iff, empty]
  · have filled : (query.execute records).records.isEmpty = false := List.isEmpty_eq_false_iff.mpr (empty.not.mpr matched)
    rw [execute_explanation, filled]
    rfl

theorem zero_limit_says_nothing_found :
    let given := Json.object [("limit", .number (.real 0.0)), ("explanation", .string " the latest "),
      ("filters", .object [("views", .object [("gt", .string "5")])])]
    let query : Query := ⟨[⟨"views", { Condition.empty with gt := some 5.0 }⟩], none, none, some "the latest"⟩
    Query.ofJson given = .ok query ∧ (query.limited 0).limit ≠ some 0 ∧
      ((query.limited 0).execute [ScoredRecord.shape.start]).explanation =
        some "No records match this query. (the latest)" := by
  intro given query
  have read : Query.ofJson given = .ok query := by rfl
  have obtained : Obtained (query.limited 0) := .limited (.read read) 0
  obtain ⟨limit, answers⟩ := empty_when_unmatched obtained
  obtain ⟨_, _, said, _⟩ := answers [ScoredRecord.shape.start]
  exact ⟨read, limit, said.mpr (by decide +kernel)⟩

end Answers

end ClipRank.Proofs.EmptyAnswers
