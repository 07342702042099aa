import ClipRank.Proofs.QuerySelection
import ClipRank.Proofs.RecordFields

/-! Metadata is for display. A query all of whose paths lead into the records themselves
looks at nothing else of them, so records that differ in their metadata alone are selected
and arranged alike. -/

namespace ClipRank.Proofs.DisplayMetadata
open QuerySelection QueryStages RecordFields

/-- The second record is the first one under other metadata. -/
def Relabelled (first second : ScoredRecord Float) : Prop :=
  ∃ metadata, second = { first with metadata }

/-- Every path of the query leads into the records. -/
structure LooksInside (query : Query) : Prop where
  filters : ∀ filter ∈ query.filters, IntoRecord filter.field
  sort : ∀ sort, query.sort = some sort → IntoRecord sort.field

theorem resolve_relabelled {first second : ScoredRecord Float} (relabelled : Relabelled first second) {path : String}
    (own : IntoRecord path) : Path.resolve? second.toJson path = Path.resolve? first.toJson path := by
  obtain ⟨metadata, rfl⟩ := relabelled
  rw [resolve_own _ own, resolve_own _ own]
  rfl

section Lists
variable {records others : List (ScoredRecord Float)} {query : Query}
  (relabelled : List.Forall₂ Relabelled records others)

/-- The same position of the other list. -/
def across (position : Fin records.length) : Fin others.length :=
  position.cast relabelled.length_eq

private theorem across_relabelled (position : Fin records.length) {there : Fin others.length}
    (reached : across relabelled position = there) : Relabelled records[position] others[there] := by
  subst reached
  exact (List.forall₂_iff_get.mp relabelled).2 position position.isLt (across relabelled position).isLt

private theorem across_reaches (position : Fin others.length) : ∃ origin, across relabelled origin = position :=
  ⟨position.cast relabelled.length_eq.symm, rfl⟩

private theorem across_injective : Function.Injective (across relabelled) :=
  Fin.cast_injective relabelled.length_eq

section Inside
variable (inside : LooksInside query)
include inside

private theorem mem_matching_across (position : Fin records.length) :
    across relabelled position ∈ matching others query ↔ position ∈ matching records query := by
  simp only [matching, Finset.mem_filter, Finset.mem_univ, true_and]
  refine forall₂_congr fun filter present => ?_
  rw [resolve_relabelled (across_relabelled relabelled position rfl) (inside.filters filter present)]

private theorem compare_across {sort : SortKey} (sorted : query.sort = some sort) (first second : Fin records.length) :
    compareRecords sort (others.get (across relabelled first)) (others.get (across relabelled second)) =
      compareRecords sort (records.get first) (records.get second) := by
  have seen (position : Fin records.length) :
      Path.resolve? (others.get (across relabelled position)).toJson sort.field =
        Path.resolve? (records.get position).toJson sort.field :=
    resolve_relabelled (across_relabelled relabelled position rfl) (inside.sort sort sorted)
  unfold compareRecords
  rw [seen, seen]

private theorem arrangement_across {order : List (Fin records.length)} (arrangement : Arrangement records query order) :
    Arrangement others query (order.map (across relabelled)) where
  distinct := arrangement.distinct.map (across_injective relabelled)
  complete := by
    ext position
    obtain ⟨origin, rfl⟩ := across_reaches relabelled position
    rw [mem_matching_across relabelled inside, ← arrangement.complete, List.mem_toFinset, List.mem_toFinset,
      List.mem_map_of_injective (across_injective relabelled)]
  nondecreasing := by
    intro sort sorted
    rw [List.pairwise_map]
    refine (arrangement.nondecreasing sort sorted).imp fun {first second} ordered => ?_
    exact (compare_across relabelled inside sorted first second).trans_ne ordered
  stable := by
    rw [List.pairwise_map]
    refine arrangement.stable.imp fun {first second} stable tied => ?_
    refine stable fun sort sorted => ?_
    exact (compare_across relabelled inside sorted first second).symm.trans (tied sort sorted)

/-- A query over the records themselves selects the same positions under any metadata: one
arrangement of positions, the only one there is, gives both answers. -/
theorem metadata_unseen :
    (∃ order, Arrangement records query order ∧ (∀ other, Arrangement records query other → other = order) ∧
      Arrangement others query (order.map (across relabelled)) ∧
      (∀ other, Arrangement others query other → other = order.map (across relabelled)) ∧
      (query.execute records).records = (query.limit.elim order order.take).map records.get ∧
      (query.execute others).records =
        ((query.limit.elim order order.take).map (across relabelled)).map others.get) ∧
    (query.execute others).total = (query.execute records).total ∧
    (query.execute others).explanation = (query.execute records).explanation := by
  obtain ⟨order, arrangement⟩ := arrangement_exists records query
  have moved := arrangement_across relabelled inside arrangement
  obtain ⟨answered, counted⟩ := arrangement.answer
  obtain ⟨otherAnswered, otherCounted⟩ := moved.answer
  have cut : query.limit.elim (order.map (across relabelled)) (order.map (across relabelled)).take =
      (query.limit.elim order order.take).map (across relabelled) := by
    cases query.limit with
    | none => rfl
    | some count => exact List.map_take.symm
  rw [cut] at otherAnswered
  refine ⟨⟨order, arrangement, fun other held => arrangement_unique records query held arrangement, moved,
    fun other held => arrangement_unique others query held moved, answered, otherAnswered⟩, ?_, ?_⟩
  · rw [counted, otherCounted, List.length_map]
  · rw [execute_explanation, execute_explanation, answered, otherAnswered]
    simp only [List.isEmpty_map]

end Inside

end Lists

theorem clashing_metadata_unseen :
    let first : ScoredRecord Float := .ofMetrics "a" "Live set" ⟨1000, 50, 5, 10.0, 90.0⟩ .classic default
    let second : ScoredRecord Float := .ofMetrics "b" "Trailer" ⟨7, 0, 0, 1.0, 30.0⟩ .balanced default
    let records := [first, second]
    let others := [{ first with metadata := [("views", .ofNat 1), ("compositeScore", .string "high")] },
      { second with metadata := [("rates", .object [("trend", .ofNat 9)]), ("title", .null)] }]
    let query : Query := ⟨[⟨"views", { Condition.empty with gte := some 5.0 }⟩, ⟨"rates.trend", Condition.empty⟩],
      some ⟨"score", .descending⟩, some 1, none⟩
    ∃ relabelled : List.Forall₂ Relabelled records others, LooksInside query ∧
      (∃ order, Arrangement records query order ∧ Arrangement others query (order.map (across relabelled)) ∧
        (query.execute records).records = (order.take 1).map records.get ∧
        (query.execute others).records = ((order.take 1).map (across relabelled)).map others.get) ∧
      (query.execute others).total = (query.execute records).total ∧
      (query.execute others).explanation = (query.execute records).explanation := by
  intro first second records others query
  have relabelled : List.Forall₂ Relabelled records others := .cons ⟨_, rfl⟩ (.cons ⟨_, rfl⟩ .nil)
  have inside : LooksInside query := by
    refine ⟨?_, ?_⟩
    · intro filter present
      rcases List.mem_pair.mp present with rfl | rfl
      · exact ⟨"rawMetrics", by decide, by decide⟩
      · exact ⟨"rates", by decide, by decide⟩
    · rintro sort ⟨⟩
      exact ⟨"compositeScore", by decide, by decide⟩
  obtain ⟨⟨order, arrangement, _, moved, _, answered, otherAnswered⟩, totals, explained⟩ :=
    metadata_unseen relabelled inside
  exact ⟨relabelled, inside, ⟨order, arrangement, moved, answered, otherAnswered⟩, totals, explained⟩

end ClipRank.Proofs.DisplayMetadata
