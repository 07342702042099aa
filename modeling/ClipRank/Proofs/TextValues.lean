import ClipRank.Proofs.JsonRoundTrip
import ClipRank.Proofs.ObjectExtraction
import ClipRank.Proofs.RateBounds

/-! Values that are read from text. A literal beyond the range of doubles has no value, and
a key that comes again takes its first place, so what text is decoded to is always proper. -/

namespace ClipRank.Proofs.TextValues
open Json JsonReading JsonRoundTrip

section Numbers
open DoubleValue WholeDoubles Rounding Magnitudes ScoreScale RateBounds
open Float.Model (Format UnpackedFloat)
open Float.Model.UnpackedFloat

/-- A decimal with no point is formed exactly and rounded once. -/
theorem unpacked_decimal {digits exponent : Nat} (filled : digits ≠ 0) (most : exponent ≤ 308) :
    UnpackedFloat.ofScientific .binary64 digits exponent =
      roundWithAccuracy .binary64 .positive (digits * 2 ^ 53 * 10 ^ exponent) (-53) .exact := by
  have bits : Format.binary64.exponentBits = 11 := rfl
  have shifted : digits <<< Format.binary64.mantissaBits = digits * 2 ^ 53 := Nat.shiftLeft_eq ..
  unfold UnpackedFloat.ofScientific
  rw [dif_neg filled, if_neg (by rw [bits]; omega), if_neg (by rw [bits]; omega), if_pos (Int.natCast_nonneg _)]
  simp only [shifted]
  rfl

private theorem near_powerOfTen {exponent : Nat} (large : 22 < exponent) (most : exponent ≤ 308) :
    Near (Numeral.powerOfTen exponent) (10 ^ exponent) := by
  have unpacked : (Numeral.powerOfTen exponent).toModel.unpack = unpack .binary64 (pack .binary64
      (roundWithAccuracy .binary64 .positive (2 ^ 53 * 10 ^ exponent) (-53) .exact)) := by
    unfold Numeral.powerOfTen Float.ofScientific
    rw [dif_neg (by omega), ← Nat.one_mul (2 ^ 53), ← unpacked_decimal one_ne_zero most]
    rfl
  have whole : (10 : ℚ) ^ exponent / 2 ^ (-53 : Int) = (2 ^ 53 * 10 ^ exponent : Nat) := by
    rw [zpow_neg, div_inv_eq_mul, mul_comm]
    push_cast
    rfl
  have leaves : Leaves (.ofMantissaAndAccuracy (2 ^ 53 * 10 ^ exponent) .exact) (10 ^ exponent / 2 ^ (-53 : Int)) := by
    rw [whole]
    exact Leaves.exactly _
  have filled : Filled (2 ^ 53 * 10 ^ exponent) (-53) :=
    Or.inl (le_trans (by norm_num) (Nat.le_mul_of_pos_right _ (by positivity)))
  simpa [Sign.apply] using near_round leaves filled unpacked

theorem powerOfTen_least {exponent : Nat} (most : exponent ≤ 308) :
    ∃ q, value? (Numeral.powerOfTen exponent) = some q ∧ 1 ≤ q := by
  rcases Nat.lt_or_ge 22 exponent with large | small
  · obtain ⟨top, found⟩ :=
      exists_double (by norm_num : 2 ^ 53 - 1 < 2 ^ 53) (by norm_num : (-1074 : Int) ≤ 971) le_rfl
    have high : (10 : ℚ) ^ exponent ≤ ((2 ^ 53 - 1 : Nat) : ℚ) * 2 ^ (971 : Int) := by
      have whole : 10 ^ 308 ≤ (2 ^ 53 - 1) * 2 ^ 971 := by decide +kernel
      refine (pow_le_pow_right₀ (by norm_num) most).trans ?_
      rw [zpow_ofNat]
      exact_mod_cast whole
    obtain ⟨q, same, low, _⟩ :=
      (near_powerOfTen large most).bounded value_one found (one_le_pow₀ (by norm_num)) high
    exact ⟨q, same, low⟩
  · -- The first powers are taken from a table.
    have each : ∀ power ≤ 22, (Numeral.powerOfTen power).isFinite = true ∧
        Float.le 1.0 (Numeral.powerOfTen power) = true := by decide
    obtain ⟨finite, least⟩ := each exponent small
    rw [← value_isSome, Option.isSome_iff_exists] at finite
    obtain ⟨q, found⟩ := finite
    exact ⟨q, found, (le_iff value_one found).mp least⟩

private theorem scaleDown_count {x : Float} {exponent : Nat} (within : Within (2 ^ 64) x) :
    Within (2 ^ 64) (Numeral.scaleDown x exponent) := by
  fun_induction Numeral.scaleDown x exponent with
  | case1 x exponent most =>
    obtain ⟨q, found, least⟩ := powerOfTen_least most
    exact div_power within found least (by norm_num)
  | case2 => exact within
  | case3 x exponent _ _ ih =>
    obtain ⟨q, found, least⟩ := powerOfTen_least (le_refl 308)
    exact ih (div_power within found least (by norm_num))

theorem finite_of_within {bound : Nat} {x : Float} (within : Within bound x) : x.isFinite = true := by
  obtain ⟨p, found, _⟩ := within
  rw [← value_isSome, found]
  rfl

theorem neg_finite {x : Float} (finite : x.isFinite = true) : (-x).isFinite = true := by
  rw [← value_isSome, Option.isSome_iff_exists] at finite ⊢
  obtain ⟨p, found⟩ := finite
  exact ⟨-p, value_neg found⟩

private theorem scale_finite {significand : Nat} {exponent : Int} {x : Float}
    (scaled : Numeral.scale? significand exponent = some x) : x.isFinite = true := by
  have counted := count_power significand.toUInt64
  unfold Numeral.scale? at scaled
  dsimp only at scaled
  split at scaled
  · exact Option.some.inj scaled ▸ finite_of_within (scaleDown_count counted)
  split at scaled
  · obtain ⟨finite, same⟩ := Option.ite_none_right_eq_some.mp scaled
    exact Option.some.inj same ▸ finite
  · obtain ⟨_, same⟩ := Option.ite_none_right_eq_some.mp scaled
    exact Option.some.inj same ▸ finite_of_within counted

private theorem real_finite {significand : Nat} {scale : Int} {exponent : Option (Bool × List Char)} {x : Float}
    (real : Numeral.real? significand scale exponent = some x) : x.isFinite = true := by
  unfold Numeral.real? at real
  split at real
  · exact scale_finite real
  · dsimp only at real
    split at real
    · exact scale_finite real
    · obtain ⟨_, same⟩ := Option.ite_none_left_eq_some.mp real
      exact Option.some.inj same ▸ rfl

/-- A literal only has a value within the range of doubles. -/
theorem numeral_proper {numeral : Numeral} {number : Number} (valued : numeral.value? = some number) :
    Proper (.number number) := by
  refine .number fun x real => ?_
  subst real
  unfold Numeral.value? at valued
  dsimp only at valued
  split at valued
  · split at valued
    · cases valued
    split at valued
    · cases valued
    · cases valued
      exact neg_finite (finite_of_within (count_power _))
  · obtain ⟨size, found, same⟩ := Option.map_eq_some_iff.mp valued
    have finite := real_finite found
    cases same
    split
    · exact neg_finite finite
    · exact finite

theorem toFloat_finite {number : Number} (proper : Proper (.number number)) : number.toFloat.isFinite = true := by
  cases number with
  | unsigned value => exact finite_of_within (count_power value)
  | negative magnitude => exact neg_finite (finite_of_within (count_power magnitude))
  | real x =>
    cases proper with
    | number finite => exact finite x rfl

end Numbers

section Objects

private theorem mem_insert {members : Members} {key : String} {value : Json} {member : String × Json}
    (present : member ∈ members.insert key value) : member ∈ members ∨ member.2 = value := by
  fun_induction Members.insert members key value with
  | case1 => exact .inr (List.mem_singleton.mp present ▸ rfl)
  | case2 held rest =>
    rcases List.mem_cons.mp present with rfl | later
    · exact .inr rfl
    · exact .inl (List.mem_cons_of_mem _ later)
  | case3 first held rest _ ih =>
    rcases List.mem_cons.mp present with rfl | later
    · exact .inl List.mem_cons_self
    · exact (ih later).imp_left (List.mem_cons_of_mem _)

private theorem insert_keys (members : Members) (key : String) (value : Json) :
    (members.insert key value).map Prod.fst =
      if key ∈ members.map Prod.fst then members.map Prod.fst else members.map Prod.fst ++ [key] := by
  fun_induction Members.insert members key value with
  | case1 => rfl
  | case2 => simp
  | case3 first held rest differ ih =>
    rw [List.map_cons, ih, List.map_cons]
    simp only [List.mem_cons, Ne.symm differ, false_or]
    split <;> rfl

theorem proper_insert {members : Members} {key : String} {value : Json} (object : Proper (.object members))
    (proper : Proper value) : Proper (.object (members.insert key value)) := by
  cases object with
  | object distinct inner =>
    refine .object ?_ fun member present => ?_
    · rw [insert_keys]
      split
      next => exact distinct
      next absent => exact distinct.append (List.nodup_singleton key) (List.disjoint_singleton.mpr absent)
    · rcases mem_insert present with held | same
      · exact inner member held
      · exact same ▸ proper

theorem proper_ofList {members : Members} (proper : ∀ member ∈ members, Proper member.2) :
    Proper (.object (Members.ofList members)) := by
  suffices fold : ∀ held : Members, Proper (.object held) →
      Proper (.object (members.foldl (fun held member => Members.insert held member.1 member.2) held)) from
    fold [] (.object .nil (List.forall_mem_nil _))
  induction members with
  | nil => exact fun _ object => object
  | cons member members ih =>
    rw [List.forall_mem_cons] at proper
    exact fun held object => ih proper.2 _ (proper_insert object proper.1)

end Objects

section Text

/-- What a phrase is decoded to is proper. -/
def Yields : Phrase → Prop
  | .value document | .member _ document =>
    ∀ origin value, Decoder.json origin document = .ok value → Proper value
  | .items documents =>
    ∀ origin values, Decoder.jsonItems origin documents = .ok values → ∀ value ∈ values, Proper value
  | .members documents =>
    ∀ origin members, Decoder.jsonMembers origin documents = .ok members → ∀ member ∈ members, Proper member.2

private theorem yields_array {documents : List Document} {closed : Bool} (inner : Yields (.items documents)) :
    Yields (.value (.array documents closed)) := by
  intro origin value decoded
  simp only [Decoder.json, Outcome.bind_ok] at decoded
  obtain ⟨_, _, values, found, same⟩ := decoded
  split at same
  · cases same
    exact .array (inner _ _ found)
  · cases same

private theorem yields_object {documents : List (Option String × Document)} {closed : Bool}
    (inner : Yields (.members documents)) : Yields (.value (.object documents closed)) := by
  intro origin value decoded
  simp only [Decoder.json, Outcome.bind_ok] at decoded
  obtain ⟨_, _, members, found, same⟩ := decoded
  split at same
  · cases same
    exact proper_ofList (inner _ _ found)
  · cases same

private theorem yields_no_items : Yields (.items []) := by
  rintro _ _ ⟨⟩ _ absent
  cases absent

private theorem yields_no_members : Yields (.members []) := by
  rintro _ _ ⟨⟩ _ absent
  cases absent

private theorem yields_item {document : Document} {documents : List Document} (first : Yields (.value document))
    (others : Yields (.items documents)) : Yields (.items (document :: documents)) := by
  intro origin values decoded
  simp only [Decoder.jsonItems, Outcome.bind_ok] at decoded
  obtain ⟨value, found, rest, following, same⟩ := decoded
  cases same
  exact List.forall_mem_cons.mpr ⟨first _ _ found, others _ _ following⟩

private theorem yields_member {key : Option String} {document : Document} {documents : List (Option String × Document)}
    (first : Yields (.value document)) (others : Yields (.members documents)) :
    Yields (.members ((key, document) :: documents)) := by
  intro origin members decoded
  cases key with
  | none => cases decoded
  | some key =>
    simp only [Decoder.jsonMembers, Outcome.bind_ok] at decoded
    obtain ⟨value, found, rest, following, same⟩ := decoded
    cases same
    exact List.forall_mem_cons.mpr ⟨first _ _ found, others _ _ following⟩

theorem yields_of_reads {phrase : Phrase} {text rest : List Char} (reads : Reads phrase text rest) : Yields phrase := by
  induction reads with
  | blank _ _ ih => exact ih
  | word known =>
    simp only [words, List.mem_cons, Prod.mk.injEq, List.not_mem_nil, or_false] at known
    rcases known with ⟨_, rfl⟩ | ⟨_, rfl⟩ | ⟨_, rfl⟩ <;> rintro _ _ ⟨⟩
    · exact .null
    · exact .boolean
    · exact .boolean
  | @number _ numeral =>
    intro origin value decoded
    cases found : numeral.value? with
    | none =>
      rw [found] at decoded
      cases decoded
    | some number =>
      rw [found] at decoded
      cases decoded
      exact numeral_proper found
  | @string _ text =>
    intro origin value decoded
    cases text with
    | none => cases decoded
    | some text =>
      cases decoded
      exact .string
  | emptyArray => exact yields_array yields_no_items
  | array _ ih => exact yields_array ih
  | emptyObject => exact yields_object yields_no_members
  | object _ ih => exact yields_object ih
  | lastItem _ _ ih => exact yields_item ih yields_no_items
  | item _ _ _ ih others => exact yields_item ih others
  | member _ _ _ ih => exact ih
  | lastMember _ _ ih => exact yields_member ih yields_no_members
  | members _ _ _ ih others => exact yields_member ih others

theorem text_proper {text : String} {value : Json} (decoded : Decoder.ofText Decoder.json text = .ok value) :
    Proper value := by
  obtain ⟨document, rest, reads, _, found⟩ := ObjectExtraction.ofText_ok.mp decoded
  exact yields_of_reads reads _ _ found

private theorem object_decoded {decoded : Except Fault Json} {value : Json}
    (object : Query.object? decoded = some value) : decoded = .ok value := by
  unfold Query.object? at object
  split at object <;> cases object
  rfl

/-- The object that is found in a reply is proper. -/
theorem found_proper {text : String} {value : Json} (found : Query.findObject? text = some value) : Proper value := by
  unfold Query.findObject? at found
  split at found
  next held span =>
    cases found
    obtain ⟨span, _, object⟩ := List.exists_of_findSome?_eq_some span
    exact text_proper (object_decoded object)
  next =>
    obtain ⟨suffix, _, object⟩ := List.exists_of_findSome?_eq_some found
    obtain ⟨_, _, reads, decoded⟩ := ObjectExtraction.objectAtStart_iff.mp object
    exact yields_of_reads reads _ _ decoded

end Text

end ClipRank.Proofs.TextValues
