import ClipRank.ScoredRecord.Json
import ClipRank.Proofs.JsonRoundTrip

/-! Scored records and their JSON views. A record is written with all of its fields in
their order, except for an efficiency that it does not have and for empty metadata, which
are what a record starts with when it is decoded. -/

namespace ClipRank.Proofs.RecordRoundTrip
open Json JsonRoundTrip

def metricsDoubles (metrics : RawMetrics Float) : List Float :=
  [metrics.ageDays, metrics.durationSeconds]

/-- The rates in the order in which a record is written. -/
def ratesDoubles (rates : Rates Float) : List Float :=
  [rates.likeRate, rates.commentRate, rates.engagementRate, rates.viewsPerDay, rates.viewsPerMinute,
    rates.engagementPerMinute]

def componentsDoubles (components : Components Float) : List Float :=
  [components.reach, components.engagement, components.consistency, components.community] ++
    components.efficiency.toList

/-- Every double in the record. -/
def doubles (record : ScoredRecord Float) : List Float :=
  record.compositeScore :: metricsDoubles record.rawMetrics ++ ratesDoubles record.rates ++
    componentsDoubles record.components

private theorem metrics_back {metrics : RawMetrics Float}
    (finite : ∀ x ∈ metricsDoubles metrics, x.isFinite = true) :
    RawMetrics.decoder.ofValue metrics.toJson = .ok metrics := by
  simp only [metricsDoubles, List.forall_mem_cons] at finite
  obtain ⟨age, duration, _⟩ := finite
  refine Written.decoded ?_ (by decide)
  exact .made rfl <| .made rfl <| .made rfl <| .made (float_back age) <| .made (float_back duration) .done

private theorem rates_back {rates : Rates Float} (finite : ∀ x ∈ ratesDoubles rates, x.isFinite = true) :
    Rates.decoder.ofValue rates.toJson = .ok rates := by
  simp only [ratesDoubles, List.forall_mem_cons] at finite
  obtain ⟨like, comment, engagement, daily, perMinute, engagementPerMinute, _⟩ := finite
  refine Written.decoded ?_ (by decide)
  exact .made (float_back like) <| .made (float_back comment) <| .made (float_back engagement) <|
    .made (float_back daily) <| .made (float_back perMinute) <| .made (float_back engagementPerMinute) .done

private theorem components_back {components : Components Float}
    (finite : ∀ x ∈ componentsDoubles components, x.isFinite = true) :
    Components.decoder.ofValue components.toJson = .ok components := by
  obtain ⟨reach, engagement, consistency, community, efficiency⟩ := components
  simp only [componentsDoubles, List.forall_mem_append, List.forall_mem_cons] at finite
  obtain ⟨⟨reached, engaged, consistent, communal, _⟩, efficient⟩ := finite
  refine Written.decoded ?_ (by decide)
  refine .made (float_back reached) <| .made (float_back engaged) <| .made (float_back consistent) <|
    .made (float_back communal) ?_
  cases efficiency with
  | none => exact .omitted (by decide) .done
  | some value =>
    have finite : value.isFinite = true := efficient value List.mem_cons_self
    exact .made (float_option_back finite) .done

private theorem profile_back (profile : Profile) : Profile.decoder.ofValue (.string profile.name) = .ok profile := by
  cases profile <;> rfl

private theorem grade_back (grade : Grade) : Grade.decoder.ofValue (.string grade.name) = .ok grade := by
  cases grade <;> rfl

/-- A record whose doubles are finite is decoded from its view, whatever its metadata. -/
theorem record_read_back (record : ScoredRecord Float) (finite : ∀ x ∈ doubles record, x.isFinite = true)
    (proper : Proper (.object record.metadata)) : ScoredRecord.decoder.ofValue record.toJson = .ok record := by
  obtain ⟨id, title, profile, metrics, rates, components, composite, grade, isShort, metadata⟩ := record
  simp only [doubles, List.forall_mem_append, List.forall_mem_cons] at finite
  obtain ⟨⟨⟨scored, measured⟩, rated⟩, blended⟩ := finite
  refine Written.decoded ?_ (by decide)
  refine .made rfl <| .made rfl <| .made (profile_back profile) <| .made (metrics_back measured) <|
    .made (rates_back rated) <| .made (components_back blended) <| .made (float_back scored) <|
    .made (grade_back grade) <| .made rfl ?_
  cases metadata with
  | nil => exact .omitted (by decide) .done
  | cons member members => exact .made proper.members_back .done

theorem clashing_metadata_read_back :
    let metadata : Members := [("id", .string "other"), ("metadata", .object [("id", .null), ("score", .array [])])]
    let record : ScoredRecord Float := {
      id := "a", title := "Title", profile := .balanced, rawMetrics := ⟨1000, 50, 5, 10.0, 90.0⟩
      rates := ⟨50.0, 5.0, 75.0, 100.0, 666.5, 36.5⟩, components := ⟨50.0, 62.5, 40.0, 9.1, none⟩
      compositeScore := 44.2, grade := .good, isShort := false, metadata }
    (∀ x ∈ doubles record, x.isFinite = true) ∧ Proper (.object metadata) ∧
      ScoredRecord.decoder.ofValue record.toJson = .ok record := by
  intro metadata record
  have finite : ∀ x ∈ doubles record, x.isFinite = true := by decide
  have nothing : Proper (.array []) := .array (List.forall_mem_nil _)
  have inner : Proper (.object [("id", .null), ("score", .array [])]) :=
    .object (by decide) (List.forall_mem_cons.mpr ⟨.null, List.forall_mem_singleton.mpr nothing⟩)
  have proper : Proper (.object metadata) :=
    .object (by decide) (List.forall_mem_cons.mpr ⟨.string, List.forall_mem_singleton.mpr inner⟩)
  exact ⟨finite, proper, record_read_back record finite proper⟩

end ClipRank.Proofs.RecordRoundTrip
