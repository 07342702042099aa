import Mathlib.Data.List.Infix

/-! Which words a text mentions. No word reaches across a character that is not in it, so a
text mentions what its pieces between such characters mention, one after the other. -/

namespace ClipRank.Proofs.Mentions

/-- The words that begin at some place of a text, in the order of the places. -/
def mentioned (words : List String) : List Char → List String
  | [] => []
  | c :: rest => (words.filter fun word => word.toList.isPrefixOf (c :: rest)) ++ mentioned words rest

/-- No word holds the character, and none is empty. -/
def Divides (separator : Char) (words : List String) : Prop :=
  ∀ word ∈ words, word ≠ "" ∧ separator ∉ word.toList

instance (separator : Char) (words : List String) : Decidable (Divides separator words) :=
  inferInstanceAs (Decidable (∀ _ ∈ _, _))

private theorem prefix_append {word front rest : List Char} {separator : Char} (absent : separator ∉ word) :
    word <+: front ++ separator :: rest ↔ word <+: front := by
  constructor
  · intro begins
    rcases List.prefix_or_prefix_of_prefix begins (List.prefix_append front _) with within | ⟨tail, rfl⟩
    · exact within
    · cases tail with
      | nil => rw [List.append_nil]
      | cons c tail =>
        obtain ⟨same, _⟩ := List.cons_prefix_cons.mp ((List.prefix_append_right_inj front).mp begins)
        exact absurd (by simp [same]) absent
  · intro within
    exact within.trans (List.prefix_append front _)

theorem mentioned_append {words : List String} {separator : Char} (divides : Divides separator words) (front rest : List Char) :
    mentioned words (front ++ separator :: rest) = mentioned words front ++ mentioned words rest := by
  have begins (front : List Char) : (words.filter fun word => word.toList.isPrefixOf (front ++ separator :: rest)) =
      words.filter fun word => word.toList.isPrefixOf front := by
    refine List.filter_congr fun word member => ?_
    rw [Bool.eq_iff_iff, List.isPrefixOf_iff_prefix, List.isPrefixOf_iff_prefix]
    exact prefix_append (divides word member).2
  induction front with
  | nil =>
    have empty : (words.filter fun word => word.toList.isPrefixOf []) = [] := by
      refine List.filter_eq_nil_iff.mpr fun word member => ?_
      rw [List.isPrefixOf_iff_prefix, List.prefix_nil, String.toList_eq_nil_iff]
      exact (divides word member).1
    have start := (begins []).trans empty
    exact congrArg (· ++ mentioned words rest) start
  | cons c front ih =>
    rw [List.cons_append, mentioned, ih, mentioned, List.append_assoc, ← List.cons_append, begins]

theorem mem_mentioned {words : List String} {word : String} (member : word ∈ words) (filled : word ≠ "") (text : List Char) :
    word ∈ mentioned words text ↔ word.toList <:+: text := by
  induction text with
  | nil => simpa [mentioned] using filled
  | cons c rest ih => simp [mentioned, member, ih, List.infix_cons_iff]

theorem mentioned_nothing {words : List String} {text : List Char} (absent : ∀ word ∈ words, ¬ word.toList <:+: text) :
    mentioned words text = [] := by
  induction text with
  | nil => rfl
  | cons c rest ih =>
    have none : (words.filter fun word => word.toList.isPrefixOf (c :: rest)) = [] := by
      refine List.filter_eq_nil_iff.mpr fun word member begins => ?_
      exact absent word member (List.isPrefixOf_iff_prefix.mp begins).isInfix
    rw [mentioned, none, List.nil_append]
    exact ih fun word member within => absent word member (within.trans (List.suffix_cons c rest).isInfix)

end ClipRank.Proofs.Mentions
