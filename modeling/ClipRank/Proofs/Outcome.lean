import Mathlib.Data.List.Forall2

/-! Steps that may fail, after each other: the whole succeeds just when every step
does. -/

namespace ClipRank.Proofs.Outcome

theorem bind_ok {fault α β : Type} {first : Except fault α} {next : α → Except fault β} {result : β} :
    (first >>= next) = .ok result ↔ ∃ value, first = .ok value ∧ next value = .ok result := by
  cases first <;> simp [bind, Except.bind]

theorem map_ok {fault α β : Type} {step : Except fault α} {f : α → β} {result : β} :
    step.map f = .ok result ↔ ∃ value, step = .ok value ∧ f value = result := by
  cases step <;> simp [Except.map]

theorem mapError_ok {fault other α : Type} {step : Except fault α} {f : fault → other} {result : α} :
    step.mapError f = .ok result ↔ step = .ok result := by
  cases step <;> simp [Except.mapError]

/-- A check that is passed goes on to the next step. -/
theorem check_ok {fault α : Type} {failed : Prop} [Decidable failed] {cause : fault} {next : Unit → Except fault α}
    {result : α} :
    (if failed then (throw cause : Except fault Unit) >>= next else next ()) = .ok result ↔
      ¬ failed ∧ next () = .ok result := by
  split_ifs with fails <;> simp [fails, bind, Except.bind, throw, throwThe, MonadExceptOf.throw]

theorem mapM_ok {fault α β : Type} {step : α → Except fault β} {items : List α} {results : List β} :
    items.mapM step = .ok results ↔ List.Forall₂ (fun item result => step item = .ok result) items results := by
  induction items generalizing results with
  | nil =>
    rw [List.mapM_nil, List.forall₂_nil_left_iff]
    exact ⟨fun same => (Except.ok.inj same).symm, fun same => congrArg Except.ok same.symm⟩
  | cons item items ih =>
    rw [List.mapM_cons, bind_ok, List.forall₂_cons_left_iff]
    constructor
    · rintro ⟨first, done, rest⟩
      obtain ⟨others, following, same⟩ := bind_ok.mp rest
      exact ⟨first, others, done, ih.mp following, (Except.ok.inj same).symm⟩
    · rintro ⟨first, others, done, following, rfl⟩
      exact ⟨first, done, bind_ok.mpr ⟨others, ih.mpr following, rfl⟩⟩

/-- Items have results in their order just when each of them has one. -/
theorem results_exist {α β : Type} {fits : α → β → Prop} {items : List α} :
    (∃ results, List.Forall₂ fits items results) ↔ ∀ item ∈ items, ∃ result, fits item result := by
  induction items with
  | nil => simp
  | cons item items ih =>
    rw [List.forall_mem_cons, ← ih]
    constructor
    · rintro ⟨_, fits⟩
      obtain ⟨result, results, fit, following, rfl⟩ := List.forall₂_cons_left_iff.mp fits
      exact ⟨⟨result, fit⟩, results, following⟩
    · rintro ⟨⟨result, fit⟩, results, following⟩
      exact ⟨result :: results, .cons fit following⟩

end ClipRank.Proofs.Outcome
