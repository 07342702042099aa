import ClipRank.Proofs.FilterGrammar
import ClipRank.Proofs.LimitGrammar
import ClipRank.Query.Text

/-! The grammar of queries: which JSON values are queries, and which query each of them
is. Only the filters and the sort decide whether a value is one. -/

namespace ClipRank.Proofs.QueryGrammar
open FilterGrammar LimitGrammar Proofs.Outcome

inductive FiltersFit : Option Json → List Filter → Prop where
  | missing : FiltersFit none []
  | null : FiltersFit (some .null) []
  | given {members filters} (fits : List.Forall₂ FilterFits members filters) :
      FiltersFit (some (.object members)) filters

inductive FiltersAccepted : Option Json → Prop where
  | missing : FiltersAccepted none
  | null : FiltersAccepted (some .null)
  | given {members} (accepted : ∀ member ∈ members, FilterAccepted member) : FiltersAccepted (some (.object members))

inductive SortFits : Option Json → Option SortKey → Prop where
  | missing : SortFits none none
  | null : SortFits (some .null) none
  | given {members text key} (field : Members.get? members "field" = some (.string text))
      (trimmed : Text.trim text = key.field) (filled : key.field ≠ "")
      (order : Members.get? members "order" = some (.string key.order.name)) :
      SortFits (some (.object members)) (some key)

inductive SortAccepted : Option Json → Prop where
  | missing : SortAccepted none
  | null : SortAccepted (some .null)
  | given {members text name} (field : Members.get? members "field" = some (.string text))
      (filled : Text.trim text ≠ "") (order : Members.get? members "order" = some (.string name))
      (known : name = "asc" ∨ name = "desc") : SortAccepted (some (.object members))

inductive Explains : Option Json → String → Prop where
  | given {text} (filled : Text.trim text ≠ "") : Explains (some (.string text)) (Text.trim text)

/-- The query that the members of an object are. -/
structure Means (members : Members) (query : Query) : Prop where
  filters : FiltersFit (Members.get? members "filters") query.filters
  sort : SortFits (Members.get? members "sort") query.sort
  limit : ∀ count, query.limit = some count ↔ Limits (Members.get? members "limit") count
  explanation : ∀ text, query.explanation = some text ↔ Explains (Members.get? members "explanation") text

theorem readFilters_iff {given : Option Json} {filters : List Filter} :
    Query.readFilters given = .ok filters ↔ FiltersFit given filters := by
  constructor
  · intro read
    unfold Query.readFilters at read
    split at read
    · cases read; exact .missing
    · cases read; exact .null
    next members => exact .given ((mapM_ok.mp read).imp fun _ _ => readFilter_iff.mp)
    next => cases read
  · intro fits
    cases fits with
    | missing | null => rfl
    | given fits => exact mapM_ok.mpr (fits.imp fun _ _ => readFilter_iff.mpr)

private theorem nonBlank_iff {value : Json} {text : String} :
    Query.nonBlank? value = some text ↔ ∃ given, value = .string given ∧ Text.trim given = text ∧ text ≠ "" := by
  constructor
  · intro found
    cases value with
    | string given =>
      simp only [Query.nonBlank?] at found
      split at found
      · cases found
      next filled =>
        obtain rfl := Option.some.inj found
        exact ⟨given, rfl, rfl, filled⟩
    | null | boolean | number | array | object => cases found
  · rintro ⟨given, rfl, rfl, filled⟩
    simp only [Query.nonBlank?, if_neg filled]

private theorem explanation_iff {given : Option Json} {text : String} :
    given.bind Query.nonBlank? = some text ↔ Explains given text := by
  rw [Option.bind_eq_some_iff]
  constructor
  · rintro ⟨_, rfl, found⟩
    obtain ⟨_, rfl, rfl, filled⟩ := nonBlank_iff.mp found
    exact .given filled
  · rintro ⟨filled⟩
    exact ⟨_, rfl, nonBlank_iff.mpr ⟨_, rfl, rfl, filled⟩⟩

theorem readSort_iff {given : Option Json} {sort : Option SortKey} :
    Query.readSort given = .ok sort ↔ SortFits given sort := by
  constructor
  · intro read
    unfold Query.readSort at read
    split at read
    · cases read; exact .missing
    · cases read; exact .null
    next members =>
      split at read
      · cases read
      next field found =>
        obtain ⟨_, named, blankless⟩ := Option.bind_eq_some_iff.mp found
        obtain ⟨text, rfl, trimmed, filled⟩ := nonBlank_iff.mp blankless
        split at read
        next order ordered =>
          split at read
          next ascending => subst ascending; cases read; exact .given named trimmed filled ordered
          next =>
            split at read
            next descending => subst descending; cases read; exact .given named trimmed filled ordered
            next => cases read
        next => cases read
    next => cases read
  · intro fits
    cases fits with
    | missing | null => rfl
    | @given members text key field trimmed filled order =>
      have named : (Members.get? members "field").bind Query.nonBlank? = some key.field :=
        Option.bind_eq_some_iff.mpr ⟨_, field, nonBlank_iff.mpr ⟨_, rfl, trimmed, filled⟩⟩
      obtain ⟨name, direction⟩ := key
      simp only [Query.readSort, named, order]
      cases direction <;> rfl

private theorem filtersFit_exists {given : Option Json} :
    (∃ filters, FiltersFit given filters) ↔ FiltersAccepted given := by
  constructor
  · rintro ⟨filters, fits⟩
    cases fits with
    | missing => exact .missing
    | null => exact .null
    | given fits =>
      have each := results_exist.mp ⟨_, fits⟩
      exact .given fun member present => filterFits_exists.mp (each member present)
  · intro accepted
    cases accepted with
    | missing => exact ⟨[], .missing⟩
    | null => exact ⟨[], .null⟩
    | given accepted =>
      obtain ⟨filters, fits⟩ := results_exist.mpr fun member present => filterFits_exists.mpr (accepted member present)
      exact ⟨filters, .given fits⟩

private theorem sortFits_exists {given : Option Json} : (∃ sort, SortFits given sort) ↔ SortAccepted given := by
  constructor
  · rintro ⟨sort, fits⟩
    cases fits with
    | missing => exact .missing
    | null => exact .null
    | @given members text key field trimmed filled order =>
      refine .given field (trimmed ▸ filled) order ?_
      cases key.order with
      | ascending => exact .inl rfl
      | descending => exact .inr rfl
  · intro accepted
    cases accepted with
    | missing => exact ⟨none, .missing⟩
    | null => exact ⟨none, .null⟩
    | given field filled order known =>
      obtain rfl | rfl := known
      · exact ⟨some ⟨_, .ascending⟩, .given field rfl filled order⟩
      · exact ⟨some ⟨_, .descending⟩, .given field rfl filled order⟩

theorem object_iff {members : Members} {query : Query} :
    Query.ofJson (.object members) = .ok query ↔ Means members query := by
  simp only [Query.ofJson, bind_ok, readFilters_iff, readSort_iff]
  constructor
  · rintro ⟨filters, filtersFit, sort, sortFits, same⟩
    cases same
    exact ⟨filtersFit, sortFits, fun _ => limit_iff, fun _ => explanation_iff⟩
  · rintro ⟨filtersFit, sortFits, limit, explanation⟩
    refine ⟨_, filtersFit, _, sortFits, congrArg Except.ok ?_⟩
    have limit : query.limit = (Members.get? members "limit").bind Query.limit? :=
      Option.ext fun count => (limit count).trans limit_iff.symm
    have explanation : query.explanation = (Members.get? members "explanation").bind Query.nonBlank? :=
      Option.ext fun text => (explanation text).trans explanation_iff.symm
    rw [← limit, ← explanation]

theorem ofJson_iff {value : Json} {query : Query} :
    Query.ofJson value = .ok query ↔ ∃ members, value = .object members ∧ Means members query := by
  constructor
  · intro read
    cases value with
    | object members => exact ⟨members, rfl, object_iff.mp read⟩
    | null | boolean | number | string | array => cases read
  · rintro ⟨members, rfl, means⟩
    exact object_iff.mpr means

/-- A text gives the query that the object in it is. -/
theorem ofText_iff {text : String} {query : Query} :
    Query.ofText text = .ok query ↔ ∃ value, Query.findObject? text = some value ∧ Query.ofJson value = .ok query := by
  unfold Query.ofText
  cases Query.findObject? text with
  | none => simp
  | some value => simp [mapError_ok]

/-- A query without the parts that are passed over where they make no sense. -/
def demands (query : Query) : List Filter × Option SortKey :=
  (query.filters, query.sort)

private theorem demands_eq {members : Members} : (Query.ofJson (.object members)).map demands = do
    let filters ← Query.readFilters (Members.get? members "filters")
    let sort ← Query.readSort (Members.get? members "sort")
    return (filters, sort) := by
  rw [Query.ofJson]
  cases Query.readFilters (Members.get? members "filters") with
  | error fault => rfl
  | ok filters =>
    cases Query.readSort (Members.get? members "sort") with
    | error fault => rfl
    | ok sort => rfl

/-- A value is a query just when its filters and its sort are well formed, and its
members determine the query. Whatever the other members are, the outcome is the same
but for the limit and the explanation. -/
theorem ofJson_grammar :
    (∀ value, (∃ query, Query.ofJson value = .ok query) ↔
      ∃ members, value = .object members ∧ FiltersAccepted (Members.get? members "filters") ∧
        SortAccepted (Members.get? members "sort")) ∧
    (∀ value query, Query.ofJson value = .ok query ↔ ∃ members, value = .object members ∧ Means members query) ∧
    (∀ members others, Members.get? members "filters" = Members.get? others "filters" →
      Members.get? members "sort" = Members.get? others "sort" →
      (Query.ofJson (.object members)).map demands = (Query.ofJson (.object others)).map demands) := by
  refine ⟨fun value => ⟨?_, ?_⟩, fun _ _ => ofJson_iff, ?_⟩
  · rintro ⟨query, read⟩
    obtain ⟨members, rfl, means⟩ := ofJson_iff.mp read
    exact ⟨members, rfl, filtersFit_exists.mp ⟨_, means.filters⟩, sortFits_exists.mp ⟨_, means.sort⟩⟩
  · rintro ⟨members, rfl, filtersAccepted, sortAccepted⟩
    obtain ⟨filters, filtersFit⟩ := filtersFit_exists.mpr filtersAccepted
    obtain ⟨sort, sortFits⟩ := sortFits_exists.mpr sortAccepted
    exact ⟨⟨filters, sort, _, _⟩, object_iff.mpr ⟨filtersFit, sortFits, fun _ => limit_iff, fun _ => explanation_iff⟩⟩
  · intro members others filters sort
    rw [demands_eq, demands_eq, filters, sort]

theorem odd_limit_passed_over :
    (∃ query, Query.ofJson (.object [("filters", .object [("grade", .object [("eq", .string "A")])])]) = .ok query) ∧
    (Query.ofJson (.object [("limit", .string "ten"), ("filters", .null)])).map demands = .ok ([], none) := by
  constructor
  · refine (ofJson_grammar.1 _).mpr ⟨_, rfl, .given ?_, .missing⟩
    intro member present
    obtain rfl := List.mem_singleton.mp present
    refine .filter fun operand present => ?_
    obtain rfl := List.mem_singleton.mp present
    exact ⟨.eq, rfl, .text⟩
  · exact ofJson_grammar.2.2 _ [("filters", .null)] rfl rfl

end ClipRank.Proofs.QueryGrammar
