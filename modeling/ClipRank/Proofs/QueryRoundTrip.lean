import ClipRank.Proofs.BatchIntake
import ClipRank.Proofs.QueryGrammar
import ClipRank.Proofs.TextValues

/-! Queries and their JSON. The grammar accepts many spellings of a query, but what it
makes of them is settled: texts are trimmed, bounds are finite numbers and a limit is a
word other than 0. A settled query is accepted from its own encoding, as itself. -/

namespace ClipRank.Proofs.QueryRoundTrip
open Json JsonRoundTrip FilterGrammar ObjectExtraction

section Condition

/-- A condition as the grammar leaves it. -/
structure Settled (condition : Condition) : Prop where
  eq : ∀ operand, condition.eq = some operand → Proper operand ∧ Fits .eq operand ∧ isNull operand = false
  bounds : ∀ bound ∈ [condition.gt, condition.gte, condition.lt, condition.lte],
    ∀ x, bound = some x → x.isFinite = true

/-- What an operator of a condition is written with. -/
def operand (condition : Condition) : Operator → Option Json
  | .eq => condition.eq
  | .gt => condition.gt.map .ofFloat
  | .gte => condition.gte.map .ofFloat
  | .lt => condition.lt.map .ofFloat
  | .lte => condition.lte.map .ofFloat
  | .contains => condition.contains.map .string

def operands (condition : Condition) : Members :=
  Operator.all.flatMap fun operator => given operator.name (operand condition operator)

theorem condition_toJson (condition : Condition) : condition.toJson = .object (operands condition) := by
  simp only [Condition.toJson, operands, Operator.all, given, operand, List.flatMap_cons, List.flatMap_nil,
    Option.map_map, List.append_assoc, List.append_nil]
  rfl

theorem mem_operands {condition : Condition} {member : String × Json} :
    member ∈ operands condition ↔ ∃ operator : Operator, member.1 = operator.name ∧
      operand condition operator = some member.2 := by
  have all (operator : Operator) : operator ∈ Operator.all := by cases operator <;> decide
  simp only [operands, List.mem_flatMap, all, true_and, mem_given]

theorem condition_back {condition : Condition} (settled : Settled condition) :
    Condition.decoder.ofValue condition.toJson = .ok condition := by
  obtain ⟨eq, gt, gte, lt, lte, contains⟩ := condition
  obtain ⟨scalar, bounds⟩ := settled
  simp only [List.forall_mem_cons] at bounds
  obtain ⟨above, atLeast, below, atMost, _⟩ := bounds
  have compared : ∀ json, eq = some json → (Decoder.option Decoder.json).ofValue json = .ok eq := by
    rintro json rfl
    obtain ⟨proper, _, filled⟩ := scalar json rfl
    refine option_back proper.json_back fun null => ?_
    rw [null] at filled
    cases filled
  have part : ∀ json, contains.map Json.string = some json → Decoder.string.option.ofValue json = .ok contains := by
    intro json written
    obtain ⟨text, rfl, rfl⟩ := Option.map_eq_some_iff.mp written
    rfl
  rw [condition_toJson]
  refine Written.decoded ?_ (by decide)
  exact .optional eq (by decide) compared (fun missing => by cases missing; rfl) <|
    .optional_float (by decide) above rfl <| .optional_float (by decide) atLeast rfl <|
    .optional_float (by decide) below rfl <| .optional_float (by decide) atMost rfl <|
    .optional contains (by decide) part (fun missing => by cases Option.map_eq_none_iff.mp missing; rfl) .done

private theorem real_proper {x : Float} (finite : x.isFinite = true) : Proper (.number (.real x)) :=
  .number fun _ same => Number.real.inj same ▸ finite

theorem Settled.operand_fits {condition : Condition} (settled : Settled condition) {operator : Operator} {json : Json}
    (written : operand condition operator = some json) :
    Proper json ∧ Fits operator json ∧ isNull json = false := by
  have bound {x : Option Float} (among : x ∈ [condition.gt, condition.gte, condition.lt, condition.lte])
      (ordering : operator ∈ [.gt, .gte, .lt, .lte]) (written : x.map Json.ofFloat = some json) :
      Proper json ∧ Fits operator json ∧ isNull json = false := by
    obtain ⟨value, rfl, rfl⟩ := Option.map_eq_some_iff.mp written
    have finite := settled.bounds _ among value rfl
    rw [ofFloat_finite finite]
    exact ⟨real_proper finite, .amount ordering .number, rfl⟩
  cases operator with
  | eq => exact settled.eq json written
  | gt | gte | lt | lte => exact bound (by simp) (by decide) written
  | contains =>
    obtain ⟨text, _, rfl⟩ := Option.map_eq_some_iff.mp written
    exact ⟨.string, .part, rfl⟩

/-- Each operator finds the one operand that was written for it. -/
theorem Settled.operand_found {condition : Condition} (settled : Settled condition) (operator : Operator) :
    operand? (operands condition) operator = operand condition operator := by
  have each (other : Operator) : (given other.name (operand condition other)).filter
      (fun member => member.1 = operator.name && !isNull member.2) =
        if other = operator then given operator.name (operand condition operator) else [] := by
    split
    next same =>
      subst same
      refine List.filter_eq_self.mpr fun member present => ?_
      obtain ⟨named, written⟩ := mem_given.mp present
      simp [named, (settled.operand_fits written).2.2]
    next differ =>
      refine List.filter_eq_nil_iff.mpr fun member present => ?_
      obtain ⟨named, _⟩ := mem_given.mp present
      simp [named, name_injective, differ]
  have alone : (operands condition).filter (fun member => member.1 = operator.name && !isNull member.2) =
      given operator.name (operand condition operator) := by
    rw [operands, List.filter_flatMap]
    simp only [each]
    cases operator <;> simp [Operator.all]
  rw [operand?, alone]
  cases operand condition operator <;> rfl

private theorem bounds_written {operands : Members} {operator : Operator} {bound : Option Float}
    (finite : ∀ x, bound = some x → x.isFinite = true) (found : operand? operands operator = bound.map .ofFloat) :
    Bounds (operand? operands operator) bound := by
  intro x
  rw [found]
  constructor
  · rintro rfl
    have number := ofFloat_finite (finite x rfl)
    exact ⟨_, rfl, number ▸ .number⟩
  · rintro ⟨json, written, amount⟩
    obtain ⟨value, rfl, rfl⟩ := Option.map_eq_some_iff.mp written
    rw [ofFloat_finite (finite value rfl)] at amount
    cases amount
    rfl

theorem Settled.filterFits {condition : Condition} (settled : Settled condition) (field : String) :
    FilterFits (field, condition.toJson) ⟨field, condition⟩ := by
  rw [condition_toJson]
  have found := settled.operand_found
  have finite := settled.bounds
  simp only [List.forall_mem_cons] at finite
  obtain ⟨above, atLeast, below, atMost, _⟩ := finite
  refine .filter (fun member present => ?_) ⟨(found .eq).symm, bounds_written above (found .gt),
    bounds_written atLeast (found .gte), bounds_written below (found .lt), bounds_written atMost (found .lte), ?_⟩
  · obtain ⟨operator, named, written⟩ := mem_operands.mp present
    exact ⟨operator, named.symm, (settled.operand_fits written).2.1⟩
  · intro text
    rw [found, operand]
    simp

theorem Settled.proper {condition : Condition} (settled : Settled condition) : Proper condition.toJson := by
  have keys (operators : List Operator) :
      ((operators.flatMap fun operator => given operator.name (operand condition operator)).map Prod.fst).Sublist
        (operators.map Operator.name) := by
    induction operators with
    | nil => exact .slnil
    | cons operator operators ih =>
      rw [List.flatMap_cons, List.map_append]
      exact (given_keys _ _).append ih
  rw [condition_toJson]
  refine .object (List.Nodup.sublist (keys _) (by decide)) fun member present => ?_
  obtain ⟨operator, _, written⟩ := mem_operands.mp present
  exact (settled.operand_fits written).1

private theorem operand_mem {operands : Members} {operator : Operator} {json : Json}
    (found : operand? operands operator = some json) : (operator.name, json) ∈ operands ∧ isNull json = false := by
  obtain ⟨member, present, rfl⟩ := List.mem_map.mp (List.mem_of_getLast? found)
  obtain ⟨inside, chosen⟩ := List.mem_filter.mp present
  obtain ⟨named, filled⟩ := Bool.and_eq_true_iff.mp chosen
  rw [← of_decide_eq_true named]
  exact ⟨inside, by simpa using filled⟩

private theorem bounds_finite {operands : Members} {operator : Operator} {bound : Option Float}
    (proper : ∀ member ∈ operands, Proper member.2) (bounds : Bounds (operand? operands operator) bound) (x : Float)
    (set : bound = some x) : x.isFinite = true := by
  obtain ⟨json, found, amount⟩ := (bounds x).mp set
  cases amount with
  | number => exact TextValues.toFloat_finite (proper _ (operand_mem found).1)
  | text _ finite => exact finite

/-- What a filter comes to is settled. -/
theorem settled_of_means {operands : Members} {condition : Condition}
    (proper : ∀ member ∈ operands, Proper member.2)
    (accepted : ∀ member ∈ operands, Accepted member) (means : Means operands condition) : Settled condition where
  eq := by
    intro operand set
    obtain ⟨present, filled⟩ := operand_mem (means.eq.symm.trans set)
    exact ⟨proper _ present, accepted_iff.mp (accepted _ present), filled⟩
  bounds := by
    simp only [List.forall_mem_cons]
    exact ⟨bounds_finite proper means.gt, bounds_finite proper means.gte, bounds_finite proper means.lt,
      bounds_finite proper means.lte, List.forall_mem_nil _⟩

end Condition

section Query
open QueryGrammar LimitGrammar

/-- A query as the grammar leaves it. -/
structure QuerySettled (query : Query) : Prop where
  distinct : (query.filters.map Filter.field).Nodup
  filters : ∀ filter ∈ query.filters, Settled filter.condition
  sort : ∀ key, query.sort = some key → Text.trim key.field = key.field ∧ key.field ≠ ""
  limit : ∀ count, query.limit = some count → 1 ≤ count ∧ count < 2 ^ 64
  explanation : ∀ text, query.explanation = some text → Text.trim text = text ∧ text ≠ ""

private theorem filters_settled {members : Members} {filters : List Filter}
    (proper : ∀ member ∈ members, Proper member.2) (fits : List.Forall₂ FilterFits members filters) :
    filters.map Filter.field = members.map Prod.fst ∧ ∀ filter ∈ filters, Settled filter.condition := by
  induction fits with
  | nil => exact ⟨rfl, List.forall_mem_nil _⟩
  | cons fit fits ih =>
    rw [List.forall_mem_cons] at proper
    obtain ⟨first, rest⟩ := proper
    obtain ⟨fields, settled⟩ := ih rest
    cases fit with
    | filter accepted means =>
      cases first with
      | object _ operands =>
        refine ⟨?_, List.forall_mem_cons.mpr ⟨settled_of_means operands accepted means, settled⟩⟩
        rw [List.map_cons, List.map_cons, fields]

private theorem get_mem {members : Members} {key : String} {value : Json}
    (found : Members.get? members key = some value) : (key, value) ∈ members := by
  obtain ⟨member, first, rfl⟩ := Option.map_eq_some_iff.mp found
  have named := List.find?_some first
  rw [← of_decide_eq_true named]
  exact List.mem_of_find?_eq_some first

private theorem fitting_settled {given : Option Json} {filters : List Filter}
    (proper : ∀ json, given = some json → Proper json) (fits : FiltersFit given filters) :
    (filters.map Filter.field).Nodup ∧ ∀ filter ∈ filters, Settled filter.condition := by
  cases fits with
  | missing | null => exact ⟨.nil, List.forall_mem_nil _⟩
  | given fits =>
    cases proper _ rfl with
    | object distinct inner =>
      obtain ⟨fields, settled⟩ := filters_settled inner fits
      exact ⟨fields ▸ distinct, settled⟩

private theorem sort_settled {given : Option Json} {key : SortKey} (fits : SortFits given (some key)) :
    Text.trim key.field = key.field ∧ key.field ≠ "" := by
  cases fits with
  | given _ trimmed filled _ => exact ⟨trimmed ▸ BatchIntake.trim_trim _, filled⟩

private theorem explanation_settled {given : Option Json} {text : String} (explains : Explains given text) :
    Text.trim text = text ∧ text ≠ "" := by
  cases explains with
  | given filled => exact ⟨BatchIntake.trim_trim _, filled⟩

/-- Whatever is accepted comes out settled. -/
theorem ofJson_settled {value : Json} (proper : Proper value) {query : Query}
    (accepted : Query.ofJson value = .ok query) : QuerySettled query := by
  obtain ⟨members, rfl, means⟩ := ofJson_iff.mp accepted
  cases proper with
  | object _ parts =>
    obtain ⟨distinct, settled⟩ := fitting_settled (fun _ found => parts _ (get_mem found)) means.filters
    exact {
      distinct
      filters := settled
      sort := fun key sorted => sort_settled (sorted ▸ means.sort)
      limit := fun count limited => ((means.limit count).mp limited).bounds
      explanation := fun text explained => explanation_settled ((means.explanation text).mp explained) }

/-- What filters are written as, if there are any. -/
def filters? (filters : List Filter) : Option Json :=
  if filters.isEmpty then none
  else some (.object (filters.map fun filter => (filter.field, filter.condition.toJson)))

/-- The members of the object that a query is written as. -/
def written (query : Query) : Members :=
  given "filters" (filters? query.filters) ++
  (given "sort" (query.sort.map SortKey.toJson) ++
  (given "limit" (query.limit.map .ofNat) ++
  (given "explanation" (query.explanation.map .string) ++ [])))

theorem query_toJson (query : Query) : query.toJson = .object (written query) := by
  have filters : (if query.filters.isEmpty = true then []
      else [("filters", Json.object (query.filters.map fun filter => (filter.field, filter.condition.toJson)))]) =
        given "filters" (filters? query.filters) := by
    cases query.filters <;> rfl
  simp only [Query.toJson, filters, written, given, Option.map_map, List.append_assoc, List.append_nil]
  rfl

/-- Each part of a query is found under its key. -/
private theorem written_get (query : Query) :
    (written query).get? "filters" = filters? query.filters ∧
      (written query).get? "sort" = query.sort.map SortKey.toJson ∧
      (written query).get? "limit" = query.limit.map .ofNat ∧
      (written query).get? "explanation" = query.explanation.map .string := by
  have nothing (key : String) : Members.get? [] key = none := rfl
  simp only [written, get_given, nothing, Option.or_none, String.reduceEq, reduceIte, and_self]

private theorem limit_word {count : Nat} (least : 1 ≤ count) (most : count < 2 ^ 64) :
    Query.limit? (.ofNat count) = some count := by
  have word : count.toUInt64.toNat = count := UInt64.toNat_ofNat_of_lt' most
  have filled : count.toUInt64 ≠ 0 := fun zero => by
    rw [zero] at word
    exact absurd word.symm (Nat.ne_of_gt least)
  rw [Json.ofNat, Query.limit?, if_neg filled, word]

theorem QuerySettled.means {query : Query} (settled : QuerySettled query) : Means (written query) query where
  filters := by
    rw [(written_get query).1, filters?]
    split
    next empty =>
      rw [List.isEmpty_iff.mp empty]
      exact .missing
    next =>
      refine .given (List.forall₂_map_left_iff.mpr (List.forall₂_same.mpr fun filter present => ?_))
      exact (settled.filters filter present).filterFits filter.field
  sort := by
    rw [(written_get query).2.1]
    cases sorted : query.sort with
    | none => exact .missing
    | some key =>
      obtain ⟨trimmed, filled⟩ := settled.sort key sorted
      exact .given rfl trimmed filled rfl
  limit := by
    intro count
    rw [(written_get query).2.2.1, ← limit_iff]
    cases limited : query.limit with
    | none => rfl
    | some most =>
      obtain ⟨least, word⟩ := settled.limit most limited
      rw [Option.map_some, Option.bind_some, limit_word least word]
  explanation := by
    intro text
    rw [(written_get query).2.2.2]
    cases explained : query.explanation with
    | none =>
      constructor
      · rintro ⟨⟩
      · rintro ⟨⟩
    | some note =>
      obtain ⟨trimmed, filled⟩ := settled.explanation note explained
      have explains : Explains (some (.string note)) (Text.trim note) := .given (trimmed.symm ▸ filled)
      rw [trimmed] at explains
      constructor
      · intro same
        exact Option.some.inj same ▸ explains
      · rintro ⟨_⟩
        rw [trimmed]

private theorem written_keys (query : Query) :
    ((written query).map Prod.fst).Sublist ["filters", "sort", "limit", "explanation"] := by
  unfold written
  simp only [List.map_append]
  exact (given_keys _ _).append <| (given_keys _ _).append <| (given_keys _ _).append <|
    (given_keys _ _).append .slnil

theorem QuerySettled.proper {query : Query} (settled : QuerySettled query) : Proper query.toJson := by
  rw [query_toJson]
  refine .object (List.Nodup.sublist (written_keys query) (by decide)) fun member present => ?_
  simp only [written, List.mem_append, mem_given, List.not_mem_nil, or_false] at present
  rcases present with ⟨_, filters⟩ | ⟨_, sort⟩ | ⟨_, limit⟩ | ⟨_, explanation⟩
  · obtain ⟨_, same⟩ := Option.ite_none_left_eq_some.mp filters
    rw [← Option.some.inj same]
    refine .object ?_ (List.forall_mem_map.mpr fun filter inside => (settled.filters filter inside).proper)
    rw [List.map_map]
    exact settled.distinct
  · obtain ⟨key, _, same⟩ := Option.map_eq_some_iff.mp sort
    rw [← same]
    exact .object (by simp) (List.forall_mem_cons.mpr ⟨.string, List.forall_mem_singleton.mpr .string⟩)
  · obtain ⟨count, _, same⟩ := Option.map_eq_some_iff.mp limit
    rw [← same]
    exact .number fun x real => by cases real
  · obtain ⟨text, _, same⟩ := Option.map_eq_some_iff.mp explanation
    rw [← same]
    exact .string

/-- The encoding of a query is accepted as the query, and those of its conditions as these. -/
structure ReadBack (query : Query) : Prop where
  proper : Proper query.toJson
  whole : Query.ofJson query.toJson = .ok query
  conditions : ∀ filter ∈ query.filters,
    Condition.decoder.ofValue filter.condition.toJson = .ok filter.condition

theorem QuerySettled.read_back {query : Query} (settled : QuerySettled query) : ReadBack query where
  proper := settled.proper
  whole := by
    rw [query_toJson]
    exact object_iff.mpr settled.means
  conditions := fun filter present => condition_back (settled.filters filter present)

/-- What is found in a text is a proper value, so the query that it gives is settled too. -/
theorem ofText_settled {text : String} {query : Query} (accepted : Query.ofText text = .ok query) :
    QuerySettled query := by
  obtain ⟨value, found, read⟩ := ofText_iff.mp accepted
  exact ofJson_settled (TextValues.found_proper found) read

/-- A query that is accepted, from a value or in the reply of a translator, is itself
accepted from its own encoding, and so are its conditions from theirs. -/
theorem query_read_back :
    (∀ (value : Json) (query : Query), Proper value → Query.ofJson value = .ok query → ReadBack query) ∧
    ∀ (text : String) (query : Query), Query.ofText text = .ok query → ReadBack query := by
  refine ⟨fun value query proper accepted => ?_, fun text query accepted => ?_⟩
  · exact (ofJson_settled proper accepted).read_back
  · exact (ofText_settled accepted).read_back

theorem trimmed_query_read_back :
    let bounds : Json := .object [("gte", .string " 10 "), ("lt", .null)]
    let sort : Json := .object [("field", .string " score "), ("order", .string "desc")]
    let value : Json := .object [("limit", .number (.real 3.0)), ("filters", .object [("views", bounds)]),
      ("sort", sort), ("explanation", .string "  best ")]
    let query : Query :=
      ⟨[⟨"views", { Condition.empty with gte := some 10.0 }⟩], some ⟨"score", .descending⟩, some 3, some "best"⟩
    let text := "Best: " ++ "\x7b\"limit\": 1, \"filters\": \x7b\x7d\x7d" ++ "."
    Proper value ∧ Query.ofJson value = .ok query ∧ ReadBack query ∧
      Query.ofText text = .ok ⟨[], none, some 1, none⟩ ∧ ReadBack ⟨[], none, some 1, none⟩ := by
  intro bounds sort value query text
  have boundsProper : Proper bounds :=
    .object (by decide) (List.forall_mem_cons.mpr ⟨.string, List.forall_mem_singleton.mpr .null⟩)
  have sortProper : Proper sort :=
    .object (by decide) (List.forall_mem_cons.mpr ⟨.string, List.forall_mem_singleton.mpr .string⟩)
  have proper : Proper value := by
    refine .object (by decide) ?_
    simp only [List.forall_mem_cons]
    refine ⟨real_proper rfl, ?_, sortProper, .string, List.forall_mem_nil _⟩
    exact .object (by decide) (List.forall_mem_singleton.mpr boundsProper)
  have accepted : Query.ofJson value = .ok query := rfl
  have harmless : Harmless "Best: " := harmless_of_braceless (by decide)
  have found := findObject_embedded harmless limited_accepted "."
  have given : Query.ofText text = .ok ⟨[], none, some 1, none⟩ := ofText_iff.mpr ⟨_, found, rfl⟩
  exact ⟨proper, accepted, query_read_back.1 value query proper accepted, given, query_read_back.2 text _ given⟩

end Query

end ClipRank.Proofs.QueryRoundTrip
