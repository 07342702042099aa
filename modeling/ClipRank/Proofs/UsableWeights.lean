import ClipRank.Proofs.ServiceRuns

/-! What a score reads of weights. Every place that reads a weight counts it as 0 unless it
is positive and finite, and reads the weights of the profile's components alone. So weights
with the same usable parts for these components score and explain alike, and sanitizing
weights, which takes their usable parts, shows nowhere. -/

namespace ClipRank.Proofs.UsableWeights
open Scalar ServiceRuns

section Parts
variable {α : Type} [Scalar α]

/-- The usable parts of the weights of some components are the same. -/
def Alike (components : List Component) (first second : Weights α) : Prop :=
  ∀ component ∈ components, positivePart (first.get component) = positivePart (second.get component)

theorem sanitized_alike (weights : Weights α) (components : List Component) :
    Alike components weights.sanitized weights := by
  intro component _
  rw [Weights.get_sanitized, positivePart_idem]

namespace Alike
variable {components : List Component} {first second : Weights α}

theorem sanitized (alike : Alike components first second) :
    Alike components first.sanitized second.sanitized := by
  intro component counted
  rw [Weights.get_sanitized, Weights.get_sanitized, alike component counted]

theorem total (alike : Alike components first second) : first.total components = second.total components :=
  congrArg sum (List.map_congr_left alike)

theorem percent (alike : Alike components first second) (component : Component) :
    first.percent component components = second.percent component components := by
  unfold Weights.percent
  rw [alike.total]
  by_cases counted : component ∈ components
  · rw [alike component counted]
  -- A component that is not among them has no share under any weights.
  · simp [counted]

variable {profile : Profile}

theorem composite (alike : Alike profile.components first second) (values : Components α) :
    Score.composite profile values first = Score.composite profile values second := by
  have shares (total : α) :
      (profile.components.map fun part => (values.get? part).getD zero * (first.sanitized.get part / total)) =
        profile.components.map fun part => (values.get? part).getD zero * (second.sanitized.get part / total) := by
    refine List.map_congr_left fun part counted => ?_
    rw [Weights.get_sanitized, Weights.get_sanitized, alike part counted]
  unfold Score.composite
  simp only [alike.total, shares]

theorem ofMetrics (alike : Alike profile.components first second) (id title : String) (metrics : RawMetrics α) :
    ScoredRecord.ofMetrics id title metrics profile first = .ofMetrics id title metrics profile second := by
  unfold ScoredRecord.ofMetrics ScoredRecord.ofComponents
  simp only [alike.composite]

variable {record : ScoredRecord α}

theorem rescore (alike : Alike record.profile.components first second) :
    record.rescore first = record.rescore second := by
  unfold ScoredRecord.rescore
  simp only [alike.composite]

theorem contributionOf (alike : Alike record.profile.components first second) {component : Component}
    (counted : component ∈ record.profile.components) :
    Explanation.contributionOf record first component = Explanation.contributionOf record second component := by
  unfold Explanation.contributionOf
  simp only [alike.total, alike.sanitized.percent, Weights.get_sanitized, alike component counted]

theorem explanation (alike : Alike record.profile.components first second) :
    Explanation.ofRecord record first = .ofRecord record second := by
  have parts : record.profile.components.map (Explanation.contributionOf record first) =
      record.profile.components.map (Explanation.contributionOf record second) :=
    List.map_congr_left fun _ counted => alike.contributionOf counted
  unfold Explanation.ofRecord
  simp only [alike.composite, parts]

end Alike

end Parts

section Records
variable {profile : Profile} {first second : Weights Float}

theorem Alike.ofRecord (alike : Alike profile.components first second) (record : VideoRecord) (now : Timestamp) :
    ScoredRecord.ofRecord record profile first now = .ofRecord record profile second now := by
  unfold ScoredRecord.ofRecord
  rw [alike.ofMetrics]

theorem Alike.ofRecords (alike : Alike profile.components first second) (records : List VideoRecord)
    (now : Timestamp) :
    ScoredRecord.ofRecords records profile first now = ScoredRecord.ofRecords records profile second now :=
  List.map_congr_left fun record _ => alike.ofRecord record now

end Records

/-- A call that brings weights is carried out as it would be with their usable parts. -/
private theorem reply_sanitized (profile : Profile) (weights : Weights Float) (translator : Translator)
    (now : Timestamp) {call : Call} (brings : (brought call).weights = some weights) :
    reply profile weights.sanitized translator now call = reply profile weights translator now call := by
  have alike := sanitized_alike weights profile.components
  cases call with
  | health => cases brings
  | weights => cases brings
  | score records overrides => simp only [reply, alike.ofRecords]
  | explain record overrides =>
    have explained : Explanation.ofRecord (.ofRecord record profile weights now) weights.sanitized =
        .ofRecord (.ofRecord record profile weights now) weights :=
      (sanitized_alike weights _).explanation
    simp only [reply, alike.ofRecord, explained]
  | query records query overrides => simp only [reply, alike.ofRecords]
  | ask records question overrides => simp only [reply, alike.ofRecords]

/-- Weights and their usable parts give the same results wherever weights are used, and the
service, which takes the usable parts of the weights of a call, replies as if it did not. -/
theorem sanitizing_unseen (weights : Weights Float) :
    weights.sanitized.sanitized = weights.sanitized ∧
    (∀ components, weights.sanitized.total components = weights.total components) ∧
    (∀ component components, weights.sanitized.percent component components = weights.percent component components) ∧
    (∀ profile values, Score.composite profile values weights.sanitized = Score.composite profile values weights) ∧
    (∀ id title metrics profile,
      ScoredRecord.ofMetrics id title metrics profile weights.sanitized = .ofMetrics id title metrics profile weights) ∧
    (∀ record : ScoredRecord Float, record.rescore weights.sanitized = record.rescore weights) ∧
    (∀ record, Explanation.ofRecord record weights.sanitized = .ofRecord record weights) ∧
    ∀ (service : Service) (surroundings : Surroundings) (call : Call) (tally : Tally),
      (brought call).weights = some weights →
      (StateT.run (service.perform surroundings call) tally).1.1 =
        reply ((brought call).profile.getD service.profile) weights service.translator surroundings.now call := by
  have alike := sanitized_alike weights
  refine ⟨weights.sanitized_idem, fun components => (alike components).total,
    fun component components => (alike components).percent component,
    fun profile values => (alike profile.components).composite values,
    fun id title metrics profile => (alike profile.components).ofMetrics id title metrics,
    fun record => (alike record.profile.components).rescore,
    fun record => (alike record.profile.components).explanation, ?_⟩
  intro service surroundings call tally brings
  obtain ⟨after, _, yields⟩ := perform_yields service surroundings call
  have given : (service.weightsFor surroundings.file (brought call).weights).1 = weights.sanitized := by
    rw [brings]
    rfl
  calc (StateT.run (service.perform surroundings call) tally).1.1
      = replyOf service surroundings call := congrArg Prod.fst (yields.value tally)
    _ = reply ((brought call).profile.getD service.profile) weights.sanitized service.translator
          surroundings.now call := by rw [replyOf, given]
    _ = _ := reply_sanitized _ weights _ _ brings

theorem unusable_weights_unseen :
    let weights : Weights Float := ⟨35.0, -20.0, 0.0 / 0.0, 1.0 / 0.0, -0.0⟩
    let record : VideoRecord := ⟨"a", "First", 1000, 50, 5, some 10.0, none, some 90.0, []⟩
    let service : Service := ⟨.classic, .start default, .disabled⟩
    let call : Call := .explain record ⟨some weights, some .balanced⟩
    (brought call).weights = some weights ∧
      (StateT.run (service.perform ⟨⟨19875, 0, 0⟩, none⟩ call) []).1.1 =
        reply .balanced weights .disabled ⟨19875, 0, 0⟩ call := by
  intro weights record service call
  have brings : (brought call).weights = some weights := rfl
  obtain ⟨_, _, _, _, _, _, _, replied⟩ := sanitizing_unseen weights
  exact ⟨brings, replied service _ call [] brings⟩

end ClipRank.Proofs.UsableWeights
