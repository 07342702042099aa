import ClipRank.Explanation
import ClipRank.Proofs.Mentions
import ClipRank.Proofs.StableSort
import ClipRank.Proofs.ValueOrder

/-! What an explanation says of a score. It gives the composite and the grade that the record
has under the weights, lists the components by what they contribute, and names the first two
that contribute in its summary. A number is written without the letters of a component's
name, so the summary names nothing else. -/

namespace ClipRank.Proofs.ExplainedScores
open Scalar Mentions StableSort ValueOrder

section Words

/-- Words that no number holds and that a blank or a comma ends. -/
structure Wordlike (words : List String) : Prop where
  spaced : Divides ' ' words
  listed : Divides ',' words
  lettered : ∀ word ∈ words, 'e' ∈ word.toList ∨ 'm' ∈ word.toList

private theorem withPoint_plain {places units : Nat} {c : Char} (present : c ∈ Binary64.withPoint places units) :
    c.isDigit = true ∨ c = '.' := by
  have digits : ∀ c ∈ List.replicate (places + 1 - (Nat.toDigits 10 units).length) '0' ++ Nat.toDigits 10 units,
      c.isDigit = true := by
    intro c present
    rcases List.mem_append.mp present with padding | digit
    · rw [List.eq_of_mem_replicate padding]
      rfl
    · exact Nat.isDigit_of_mem_toDigits (by decide) (by decide) digit
  unfold Binary64.withPoint at present
  rcases List.mem_append.mp present with whole | fraction
  · exact Or.inl (digits c (List.mem_of_mem_take whole))
  · split at fraction
    · cases fraction
    · rcases List.mem_cons.mp fraction with point | digit
      · exact Or.inr point
      · exact Or.inl (digits c (List.mem_of_mem_drop digit))

theorem fixed_plain {places : Nat} {x : Float} {c : Char} (present : c ∈ (Binary64.fixed places x).toList) :
    c.isDigit = true ∨ c ∈ "-.NaNinf".toList := by
  unfold Binary64.fixed at present
  split at present
  · have within : "NaN".toList ⊆ "-.NaNinf".toList := by decide
    exact Or.inr (within present)
  · split at present
    · have within : (if Binary64.isNegative x then "-inf" else "inf").toList ⊆ "-.NaNinf".toList := by split <;> decide
      exact Or.inr (within present)
    · dsimp only at present
      rw [String.toList_ofList] at present
      rcases List.mem_append.mp present with sign | digits
      · have within : (if (Binary64.parts x).negative then ['-'] else []) ⊆ "-.NaNinf".toList := by split <;> decide
        exact Or.inr (within sign)
      · rcases withPoint_plain digits with digit | rfl
        · exact Or.inl digit
        · exact Or.inr (by decide)

private theorem fixed_unlettered (places : Nat) (x : Float) :
    'e' ∉ (Binary64.fixed places x).toList ∧ 'm' ∉ (Binary64.fixed places x).toList := by
  constructor
  · intro present
    exact absurd (fixed_plain present) (by decide)
  · intro present
    exact absurd (fixed_plain present) (by decide)

variable {words : List String} (wordlike : Wordlike words)
include wordlike

private theorem mentioned_fixed (places : Nat) (x : Float) : mentioned words (Binary64.fixed places x).toList = [] := by
  apply mentioned_nothing
  intro word member within
  rcases wordlike.lettered word member with letter | letter
  · exact (fixed_unlettered places x).1 (within.subset letter)
  · exact (fixed_unlettered places x).2 (within.subset letter)

/-- A list of components with their values mentions what their names mention. -/
private theorem mentioned_listed (parts : List (Contribution Float)) :
    mentioned words (", ".intercalate
      (parts.map fun part => part.component.name ++ " " ++ Binary64.fixed 1 part.value)).toList =
        parts.flatMap fun part => mentioned words part.component.name.toList := by
  have single (part : Contribution Float) :
      mentioned words (part.component.name ++ " " ++ Binary64.fixed 1 part.value).toList =
        mentioned words part.component.name.toList := by
    have split : (part.component.name ++ " " ++ Binary64.fixed 1 part.value).toList =
        part.component.name.toList ++ ' ' :: (Binary64.fixed 1 part.value).toList := by simp
    rw [split, mentioned_append wordlike.spaced, mentioned_fixed wordlike, List.append_nil]
  induction parts with
  | nil => rfl
  | cons part rest ih =>
    cases rest with
    | nil => simpa using single part
    | cons next rest =>
      have parted (first others : String) : (first ++ ", " ++ others).toList = first.toList ++ ',' :: ([] ++ ' ' :: others.toList) := by
        simp
      rw [List.map_cons] at ih
      rw [List.map_cons, List.map_cons, String.intercalate_cons_cons, parted, mentioned_append wordlike.listed, single,
        mentioned_append wordlike.spaced, ih]
      rfl

/-- A summary mentions the components that drive the score, beside what its fixed words
mention. -/
private theorem mentioned_summary (explanation : Explanation Float) :
    mentioned words explanation.summary.toList =
      mentioned words ("(" ++ explanation.grade.label ++ "):").toList ++
        if explanation.drivers.isEmpty then mentioned words "no component contributes".toList
        else mentioned words "driven".toList ++ (mentioned words "by".toList ++
          explanation.drivers.flatMap fun part => mentioned words part.component.name.toList) := by
  have headed (rest : String) : mentioned words
      (Binary64.fixed 1 explanation.compositeScore ++ " (" ++ explanation.grade.label ++ "): " ++ rest).toList =
        mentioned words ("(" ++ explanation.grade.label ++ "):").toList ++ mentioned words rest.toList := by
    have split : (Binary64.fixed 1 explanation.compositeScore ++ " (" ++ explanation.grade.label ++ "): " ++ rest).toList =
        (Binary64.fixed 1 explanation.compositeScore).toList ++
          ' ' :: (("(" ++ explanation.grade.label ++ "):").toList ++ ' ' :: rest.toList) := by simp
    rw [split, mentioned_append wordlike.spaced, mentioned_fixed wordlike, List.nil_append, mentioned_append wordlike.spaced]
  unfold Explanation.summary
  dsimp only
  rw [List.isEmpty_map]
  split
  · rw [headed]
  · have split (others : String) : ("driven by " ++ others).toList = "driven".toList ++ ' ' :: ("by".toList ++ ' ' :: others.toList) := by
      simp
    rw [String.append_assoc, headed, split, mentioned_append wordlike.spaced, mentioned_append wordlike.spaced,
      mentioned_listed wordlike]

end Words

section Names

def names : List String :=
  Component.all.map Component.name

private theorem names_wordlike : Wordlike names :=
  ⟨by decide, by decide, by decide⟩

private theorem mentioned_label (grade : Grade) : mentioned names ("(" ++ grade.label ++ "):").toList = [] := by
  cases grade <;> decide

private theorem mentioned_name (component : Component) : mentioned names component.name.toList = [component.name] := by
  cases component <;> decide

/-- The components that drive a score are the only ones that its summary names. -/
theorem summary_names (explanation : Explanation Float) :
    mentioned names explanation.summary.toList = explanation.drivers.map fun part => part.component.name := by
  have phrase : mentioned names "no component contributes".toList = [] := by decide
  have lead : mentioned names "driven".toList = [] ∧ mentioned names "by".toList = [] := by decide
  rw [mentioned_summary names_wordlike, mentioned_label, phrase, lead.1, lead.2]
  simp only [mentioned_name, List.nil_append]
  split
  next none => rw [List.isEmpty_iff.mp none, List.map_nil]
  next => exact List.map_eq_flatMap.symm

end Names

section Phrase

private theorem component_wordlike : Wordlike ["component"] :=
  ⟨by decide, by decide, by decide⟩

private theorem component_unmentioned {explanation : Explanation Float} (driven : explanation.drivers ≠ []) :
    mentioned ["component"] explanation.summary.toList = [] := by
  have label (grade : Grade) : mentioned ["component"] ("(" ++ grade.label ++ "):").toList = [] := by
    cases grade <;> decide
  have name (component : Component) : mentioned ["component"] component.name.toList = [] := by
    cases component <;> decide
  have lead : mentioned ["component"] "driven".toList = [] ∧ mentioned ["component"] "by".toList = [] := by decide
  rw [mentioned_summary component_wordlike, label, lead.1, lead.2, if_neg (mt List.isEmpty_iff.mp driven)]
  simp only [name, List.nil_append, List.flatMap_eq_nil_iff, implies_true]

/-- A summary says that nothing contributes just when nothing drives the score. -/
theorem summary_nothing (explanation : Explanation Float) :
    "no component contributes".toList <:+: explanation.summary.toList ↔ explanation.drivers = [] := by
  constructor
  · intro said
    by_contra driven
    have within : "component".toList <:+: "no component contributes".toList := by decide
    have word := (mem_mentioned (List.mem_singleton_self _) (by decide) _).mpr (within.trans said)
    rw [component_unmentioned driven] at word
    exact List.not_mem_nil word
  · intro none
    unfold Explanation.summary
    rw [none]
    dsimp only [List.map_nil]
    rw [if_pos (by rfl), String.toList_append]
    exact (List.suffix_append _ _).isInfix

end Phrase

section Listing
variable (record : ScoredRecord Float) (weights : Weights Float)

/-- The components of a profile in display order. -/
private def before (profile : Profile) (first second : Contribution Float) : Prop :=
  profile.components.idxOf first.component < profile.components.idxOf second.component

private theorem components_listed : (Explanation.ofRecord record weights).components.Pairwise
    (Settled (bestFirst Contribution.contribution) (before record.profile)) := by
  apply mergeSort_settled
  rw [List.pairwise_map]
  change record.profile.components.Pairwise fun first second =>
    record.profile.components.idxOf first < record.profile.components.idxOf second
  cases record.profile <;> decide

private theorem components_once (component : Component) :
    ((Explanation.ofRecord record weights).components.map Contribution.component).count component =
      if component ∈ record.profile.components then 1 else 0 := by
  have listed := (Explanation.components_perm record weights).map Contribution.component
  have same : (record.profile.components.map (Explanation.contributionOf record weights)).map Contribution.component =
      record.profile.components := by
    rw [List.map_map]
    exact List.map_id _
  rw [listed.count_eq, same]
  exact record.profile.components_distinct.count

end Listing

/-- An explanation gives the composite and the grade of the record under the weights, and
the contribution of each component once, the largest first and equal ones in display order.
Its summary names the first two that contribute, and says so if none does. -/
theorem explained_as_scored (record : ScoredRecord Float) (weights : Weights Float) :
    let explanation := Explanation.ofRecord record weights
    let contributing := explanation.components.filter fun part => Float.lt 0.0 part.contribution
    explanation.compositeScore = (record.rescore weights).compositeScore ∧
    explanation.grade = (record.rescore weights).grade ∧
    explanation.components.Perm (record.profile.components.map (Explanation.contributionOf record weights)) ∧
    (∀ component, (explanation.components.map Contribution.component).count component =
      if component ∈ record.profile.components then 1 else 0) ∧
    explanation.components.Pairwise (fun first second =>
      Binary64.totalOrder second.contribution first.contribution ≠ .gt ∧
        (Binary64.totalOrder second.contribution first.contribution = .eq →
          record.profile.components.idxOf first.component < record.profile.components.idxOf second.component)) ∧
    mentioned (Component.all.map Component.name) explanation.summary.toList =
      (contributing.take 2).map (fun part => part.component.name) ∧
    ("no component contributes".toList <:+: explanation.summary.toList ↔ contributing = []) := by
  intro explanation contributing
  refine ⟨rfl, rfl, Explanation.components_perm record weights, components_once record weights,
    components_listed record weights, summary_names explanation, (summary_nothing explanation).trans ?_⟩
  exact List.take_eq_nil_iff.trans (or_iff_right (by decide))

end ClipRank.Proofs.ExplainedScores
