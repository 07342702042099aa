import Mathlib.Data.List.Chain
import Mathlib.Data.List.DropRight
import ClipRank.Title

/-! Titles in normal form. Neither reducing the runs of blanks nor trimming changes the words
of a text, and a text without blanks at its ends or side by side is its words with spaces
between them. So a title in normal form is spelled by the words it had. -/

namespace ClipRank.Proofs.TitleWords
open Text

/-- The pieces of a text between its blanks, without the empty ones. -/
def words (text : List Char) : List (List Char) :=
  (text.splitOnP isBlank).filter (· ≠ [])

/-- No two blanks stand side by side. -/
def Apart (text : List Char) : Prop :=
  text.IsChain fun c next => isBlank c = true → isBlank next = false

/-- The only blanks are single spaces between words. -/
structure Spaced (text : List Char) : Prop where
  starts : ∀ c ∈ text.head?, isBlank c = false
  ends : ∀ c ∈ text.getLast?, isBlank c = false
  spaces : ∀ c ∈ text, isBlank c = true → c = ' '
  apart : Apart text

section Words
variable {c : Char} {text front rest : List Char}

private theorem space_blank : isBlank ' ' = true := by
  decide

/-- A blank divides the words. -/
theorem words_append (blank : isBlank c = true) (front rest : List Char) :
    words (front ++ c :: rest) = words front ++ words rest := by
  rw [words, List.splitOnP_append_cons front rest blank, List.filter_append]
  rfl

theorem words_solid (filled : text ≠ []) (solid : ∀ c ∈ text, isBlank c = false) : words text = [text] := by
  rw [words, List.splitOnP_eq_singleton solid]
  exact List.filter_cons_of_pos (decide_eq_true filled)

private theorem words_blank (blank : isBlank c = true) (rest : List Char) : words (c :: rest) = words rest :=
  words_append blank [] rest

/-- The words after a front are the same, also where the last word of the front goes on. -/
private theorem words_collapse_after (front text : List Char) : words (front ++ collapse text) = words (front ++ text) := by
  induction text generalizing front with
  | nil => rfl
  | cons c rest ih =>
    unfold collapse
    split
    next blank =>
      split
      next next more =>
        rw [words_append blank]
        split
        next again => rw [ih front, words_append again, words_blank again]
        next filled =>
          have alone : words (collapse (next :: more)) = words (next :: more) := ih []
          rw [words_append space_blank, alone]
      next => rw [words_append space_blank, words_append blank]
    next filled =>
      have step := ih (front ++ [c])
      rwa [List.append_assoc, List.append_assoc] at step

theorem words_collapse (text : List Char) : words (collapse text) = words text :=
  words_collapse_after [] text

theorem words_trimStart (text : List Char) : words (trimStart text) = words text := by
  induction text with
  | nil => rfl
  | cons c rest ih =>
    by_cases blank : isBlank c = true
    · rw [trimStart, List.dropWhile_cons_of_pos blank, words_blank blank]
      exact ih
    · rw [trimStart, List.dropWhile_cons_of_neg blank]

theorem words_trimEnd (text : List Char) : words (trimEnd text) = words text := by
  change words (text.rdropWhile isBlank) = words text
  induction text using List.reverseRecOn with
  | nil => rfl
  | append_singleton front c ih =>
    by_cases blank : isBlank c = true
    · rw [List.rdropWhile_concat_pos _ _ _ blank, ih, words_append blank front []]
      exact (List.append_nil _).symm
    · rw [List.rdropWhile_concat_neg _ _ _ blank]

end Words

section Spaced
variable {c : Char} {text front rest : List Char}

private theorem collapse_filled (filled : isBlank c = false) (rest : List Char) : collapse (c :: rest) = c :: collapse rest := by
  simp [collapse, filled]

private theorem collapse_spaces (text : List Char) : ∀ c ∈ collapse text, isBlank c = true → c = ' ' := by
  induction text with
  | nil => exact List.forall_mem_nil _
  | cons c rest ih =>
    unfold collapse
    split
    next blank =>
      split
      next next more =>
        split
        next again => exact ih
        next filled => exact List.forall_mem_cons.mpr ⟨fun _ => rfl, ih⟩
      next => exact List.forall_mem_singleton.mpr fun _ => rfl
    next filled => exact List.forall_mem_cons.mpr ⟨fun blank => absurd blank filled, ih⟩

private theorem collapse_apart (text : List Char) : Apart (collapse text) := by
  induction text with
  | nil => exact .nil
  | cons c rest ih =>
    unfold collapse
    split
    next blank =>
      split
      next next more =>
        split
        next again => exact ih
        next filled =>
          rw [Bool.not_eq_true] at filled
          rw [collapse_filled filled] at ih ⊢
          exact ih.cons_cons fun _ => filled
      next => exact .singleton _
    next filled => exact List.isChain_cons.mpr ⟨fun _ _ blank => absurd blank filled, ih⟩

private theorem trimStart_starts (text : List Char) : ∀ c ∈ (trimStart text).head?, isBlank c = false := by
  intro c head
  have first := List.head?_dropWhile_not isBlank text
  change (text.dropWhile isBlank).head? = some c at head
  rwa [head] at first

private theorem trimEnd_ends (text : List Char) : ∀ c ∈ (trimEnd text).getLast?, isBlank c = false := by
  intro c last
  rw [trimEnd, List.getLast?_reverse] at last
  exact trimStart_starts text.reverse c last

theorem trimmed_spaced (text : List Char) : Spaced (trimEnd (trimStart (collapse text))) := by
  have front : trimEnd (trimStart (collapse text)) <+: trimStart (collapse text) := List.rdropWhile_prefix _ _
  have rest : trimStart (collapse text) <:+ collapse text := List.dropWhile_suffix _
  have inside := front.isInfix.trans rest.isInfix
  refine ⟨?_, trimEnd_ends _, ?_, ?_⟩
  · intro c head
    obtain ⟨more, same⟩ := List.head?_eq_some_iff.mp head
    obtain ⟨tail, whole⟩ := front
    apply trimStart_starts (collapse text)
    rw [← whole, same]
    rfl
  · intro c member
    exact collapse_spaces text c (inside.subset member)
  · obtain ⟨before, after, whole⟩ := inside
    have chain := collapse_apart text
    rw [← whole] at chain
    exact chain.left_of_append.right_of_append

/-- What follows a blank is not empty, and its blanks are in order as well. -/
private theorem Spaced.after (spaced : Spaced (front ++ c :: rest)) (blank : isBlank c = true) : rest ≠ [] ∧ Spaced rest := by
  have filled : rest ≠ [] := by
    rintro rfl
    have last := spaced.ends c List.getLast?_concat
    exact Bool.false_ne_true (last.symm.trans blank)
  have chain := List.isChain_cons.mp spaced.apart.right_of_append
  refine ⟨filled, ⟨?_, ?_, ?_, chain.2⟩⟩
  · intro next head
    exact chain.1 next head blank
  · intro last member
    apply spaced.ends last
    rw [List.append_cons, List.getLast?_append_of_ne_nil _ filled]
    exact member
  · intro other member
    exact spaced.spaces other (List.mem_append_right _ (List.mem_cons_of_mem _ member))

/-- The front is the part of a word that was already met. -/
private theorem spelled_after (front : List Char) (solid : ∀ c ∈ front, isBlank c = false)
    (spaced : Spaced (front ++ text)) : [' '].intercalate (words (front ++ text)) = front ++ text := by
  induction text generalizing front with
  | nil =>
    rw [List.append_nil]
    by_cases empty : front = []
    · subst empty
      rfl
    · rw [words_solid empty solid, List.intercalate_singleton]
  | cons c rest ih =>
    by_cases blank : isBlank c = true
    · have filled : front ≠ [] := by
        rintro rfl
        exact Bool.false_ne_true ((spaced.starts c rfl).symm.trans blank)
      obtain ⟨more, after⟩ := spaced.after blank
      have space : c = ' ' := spaced.spaces c (List.mem_append_right _ List.mem_cons_self) blank
      have back : [' '].intercalate (words rest) = rest := ih [] (List.forall_mem_nil _) after
      have others : words rest ≠ [] := by
        intro none
        rw [none] at back
        exact more back.symm
      rw [words_append blank, words_solid filled solid, List.singleton_append, List.intercalate_cons_of_ne_nil others, back,
        space, List.append_assoc, List.singleton_append]
    · have step := ih (front ++ [c])
      rw [List.append_assoc, List.singleton_append] at step
      apply step _ spaced
      intro other member
      rcases List.mem_append.mp member with before | last
      · exact solid other before
      · rw [List.mem_singleton.mp last]
        exact Bool.eq_false_iff.mpr blank

theorem Spaced.spelled (spaced : Spaced text) : [' '].intercalate (words text) = text :=
  spelled_after [] (List.forall_mem_nil _) spaced

end Spaced

/-- A title in normal form is the words of the decoded title with a space between each two of
them, and it has no other blanks. -/
theorem normalize_words (title : String) :
    Title.normalize title = String.ofList ([' '].intercalate (words (Entity.decode title.toList))) ∧
      Spaced (Title.normalize title).toList := by
  have spaced := trimmed_spaced (Entity.decode title.toList)
  constructor
  · have spelled := spaced.spelled
    rw [words_trimEnd, words_trimStart, words_collapse] at spelled
    rw [spelled]
    rfl
  · rw [Title.normalize, String.toList_ofList]
    exact spaced

end ClipRank.Proofs.TitleWords
