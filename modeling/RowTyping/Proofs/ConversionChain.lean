import RowTyping.Proofs.Join
import RowTyping.Proofs.PromotionOrder
import Mathlib.Data.List.Chain

namespace RowTyping

variable {scalar : ScalarTyping} {a b c source target ty : Ty} {way : Conversion}

theorem Primitive.canCast_iff {p q : Primitive} : canCast p q ↔ p.family = q.family := by
  cases p <;> cases q <;>
    simp [canCast, family, isNumberLike, isNumeric, isInteger, isFloat, isBool]

namespace ScalarTyping

/-- Casts stay within a family of primitives, turn text into an owned string, or do nothing. -/
theorem numeric_canCast_iff :
    numeric.canCast a b ↔
      (∃ p q, a = .primitive p ∧ b = .primitive q ∧ p.family = q.family) ∨
        (a.isString ∧ b = .ownedString) ∨ a = b := by
  simp only [numeric]
  split
  next p q =>
    rw [Primitive.canCast_iff]
    constructor
    · intro family
      exact .inl ⟨p, q, rfl, rfl, family⟩
    · rintro (⟨_, _, left, right, family⟩ | ⟨text, _⟩ | same)
      · cases left
        cases right
        exact family
      · cases text
      · cases same
        rfl
  next =>
    constructor
    · intro text
      exact .inr (.inl ⟨text, rfl⟩)
    · rintro (⟨_, _, _, other, _⟩ | ⟨text, _⟩ | rfl)
      · cases other
      · exact text
      · rfl
  next owned values =>
    rw [decide_eq_true_iff]
    constructor
    · intro same
      exact .inr (.inr same)
    · rintro (⟨p, q, rfl, rfl, _⟩ | ⟨_, rfl⟩ | same)
      · exact (values p q rfl rfl).elim
      · exact (owned rfl).elim
      · exact same

private theorem numeric_canCast_trans (first : numeric.canCast a b) (second : numeric.canCast b c) :
    numeric.canCast a c := by
  rcases numeric_canCast_iff.mp first with ⟨p, q, rfl, rfl, family⟩ | ⟨text, rfl⟩ | rfl
  · rcases numeric_canCast_iff.mp second with ⟨_, r, same, rfl, family'⟩ | ⟨text, _⟩ | rfl
    · cases same
      exact Primitive.canCast_iff.mpr (family.trans family')
    · cases text
    · exact first
  · rcases numeric_canCast_iff.mp second with ⟨_, _, other, _, _⟩ | ⟨_, rfl⟩ | rfl
    · cases other
    · exact first
    · exact first
  · exact second

end ScalarTyping

namespace Conversion

/-- The conversions there are. The rules exclude each other, so their order does not matter. -/
inductive Leads (scalar : ScalarTyping) : Ty → Ty → Conversion → Prop where
  | exact (ty : Ty) : Leads scalar ty ty .exact
  | missing (value : MaskedValue) : Leads scalar .null (.masked value) .nullToMasked
  | underMask {value other : MaskedValue} (different : value ≠ other)
    (allowed : scalar.canCast value.type other.type) :
    Leads scalar (.masked value) (.masked other) .cast
  | copy {text : Ty} (borrowed : text = .stringView ∨ text = .stringLiteral) :
    Leads scalar text .ownedString .materialize
  | copyValid {text : Ty} (borrowed : text = .stringView ∨ text = .stringLiteral) :
    Leads scalar text .maskedString .materializeValid
  | wrap {plain : Ty} {value : MaskedValue} (present : plain.isNullable = false)
    (copied : plain = .stringView ∨ plain = .stringLiteral → value ≠ .ownedString)
    (allowed : scalar.canCast plain value.type) :
    Leads scalar plain (.masked value) .wrapValid
  | cast {p q : Primitive} (different : p ≠ q)
    (allowed : scalar.canCast (.primitive p) (.primitive q)) :
    Leads scalar (.primitive p) (.primitive q) .cast

theorem classify_eq_ok_iff :
    classify scalar source target = .ok way ↔ Leads scalar source target way := by
  constructor
  · intro found
    unfold classify at found
    split at found
    next same =>
      cases found
      subst same
      exact .exact source
    next different =>
      split at found
      next value =>
        cases found
        exact .missing value
      next value other =>
        obtain ⟨allowed, rfl⟩ := ifCast_eq_ok_iff.mp found
        exact .underMask (fun same => different (congrArg Ty.masked same)) allowed
      next =>
        cases found
        exact .copy (.inl rfl)
      next =>
        cases found
        exact .copy (.inr rfl)
      next =>
        cases found
        exact .copyValid (.inl rfl)
      next =>
        cases found
        exact .copyValid (.inr rfl)
      next value notNull notMasked notView notLiteral =>
        obtain ⟨allowed, rfl⟩ := ifCast_eq_ok_iff.mp found
        have present : source.isNullable = false := by
          cases source with
          | null => exact (notNull rfl).elim
          | masked other => exact (notMasked other rfl).elim
          | _ => rfl
        exact .wrap present (fun borrowed => borrowed.elim notView notLiteral) allowed
      next p q =>
        obtain ⟨allowed, rfl⟩ := ifCast_eq_ok_iff.mp found
        exact .cast (fun same => different (congrArg Ty.primitive same)) allowed
      next => cases found
  · intro leads
    cases leads with
    | exact => exact classify_self scalar source
    | missing value => rfl
    | underMask different allowed => simp [classify, different, allowed]
    | copy borrowed => exact classify_text_owned scalar borrowed
    | copyValid borrowed => exact classify_text_masked scalar borrowed
    | @wrap _ value present copied allowed =>
      have wrapped : ifCast (scalar.canCast source value.type) .wrapValid source (.masked value) =
          .ok .wrapValid := ifCast_eq_ok_iff.mpr ⟨allowed, rfl⟩
      cases source with
      | null | masked => cases present
      | stringView | stringLiteral =>
        cases value with
        | ownedString => simp at copied
        | primitive p => exact wrapped
      | _ => exact wrapped
    | cast different allowed => simp [classify, different, allowed]

theorem classify_fails {failure : TypeError}
    (failed : classify scalar source target = .error failure) :
    failure = .incompatibleCast source.name target.name := by
  have cast (allowed : Bool) (way : Conversion)
      (failed : ifCast allowed way source target = .error failure) :
      failure = .incompatibleCast source.name target.name := by
    unfold ifCast at failed
    split at failed
    · cases failed
    · exact (Except.error.inj failed).symm
  unfold classify at failed
  split at failed
  · cases failed
  · split at failed
    case h_2 | h_7 | h_8 => exact cast _ _ failed
    case h_9 => exact (Except.error.inj failed).symm
    all_goals cases failed

theorem Leads.isMasked (leads : Leads scalar source target way) (masked : source.isMasked) :
    target.isMasked := by
  cases leads with
  | exact => exact masked
  | missing | underMask | copyValid | wrap => rfl
  | copy borrowed => rcases borrowed with rfl | rfl <;> cases masked
  | cast => cases masked

/-- A value that may be missing converts to nothing but a mask. -/
theorem classify_of_isNullable (nullable : source.isNullable) (bare : target.isMasked = false)
    (different : target ≠ source) :
    classify scalar source target = .error (.incompatibleCast source.name target.name) := by
  cases outcome : classify scalar source target with
  | error failure => rw [classify_fails outcome]
  | ok way =>
    cases classify_eq_ok_iff.mp outcome with
    | exact => exact (different rfl).elim
    | missing | underMask | copyValid | wrap => cases bare
    | copy borrowed => rcases borrowed with rfl | rfl <;> cases nullable
    | cast => cases nullable

/-- Borrowed text enters an owned string, masked or not, by a copy alone. -/
theorem copies_of_classify (borrowed : source = .stringView ∨ source = .stringLiteral)
    (owned : target = .ownedString ∨ target = .maskedString)
    (converts : classify scalar source target = .ok way) : way ≠ .cast ∧ way ≠ .wrapValid := by
  rcases owned with rfl | rfl
  · cases (classify_text_owned scalar borrowed).symm.trans converts
    decide
  · cases (classify_text_masked scalar borrowed).symm.trans converts
    decide

end Conversion

def Convertible (scalar : ScalarTyping) (source target : Ty) : Prop :=
  ∃ way, Conversion.classify scalar source target = .ok way

namespace Convertible

open ScalarTyping

theorem refl (scalar : ScalarTyping) (ty : Ty) : Convertible scalar ty ty :=
  ⟨.exact, Conversion.classify_self scalar ty⟩

theorem isMasked (converts : Convertible scalar source target) (masked : source.isMasked) :
    target.isMasked := by
  obtain ⟨way, outcome⟩ := converts
  exact (Conversion.classify_eq_ok_iff.mp outcome).isMasked masked

private theorem null_iff : Convertible scalar .null b ↔ b.isNullable := by
  constructor
  · intro converts
    obtain ⟨way, outcome⟩ := converts
    cases Conversion.classify_eq_ok_iff.mp outcome with
    | exact | missing => rfl
    | copy borrowed | copyValid borrowed => rcases borrowed with other | other <;> cases other
    | wrap present => cases present
  · exact Conversion.classify_null

/-- A value converts where the bare values cast, and a mask stays on. -/
theorem present_iff (present : a ≠ .null) :
    Convertible .numeric a b ↔
      (a.isMasked → b.isMasked) ∧ numeric.canCast a.unmasked b.unmasked := by
  constructor
  · intro converts
    refine ⟨converts.isMasked, ?_⟩
    obtain ⟨way, outcome⟩ := converts
    cases Conversion.classify_eq_ok_iff.mp outcome with
    | exact => exact numeric_canCast_self _
    | missing => contradiction
    | underMask different allowed | cast different allowed => exact allowed
    | copy borrowed | copyValid borrowed => rcases borrowed with rfl | rfl <;> rfl
    | wrap present copied allowed =>
      rw [Ty.unmasked_of_not_isMasked (by simp_all [Ty.isNullable])]
      exact allowed
  · rintro ⟨keeps, allowed⟩
    cases covered : b.isMasked with
    | true =>
      obtain ⟨value, rfl⟩ := Ty.eq_masked_of_isMasked covered
      exact Conversion.classify_masked allowed
    | false =>
      have bare : a.isMasked = false := by simp_all
      rw [Ty.unmasked_of_not_isMasked bare, Ty.unmasked_of_not_isMasked covered] at allowed
      rcases numeric_canCast_iff.mp allowed with ⟨p, q, rfl, rfl, _⟩ | ⟨text, rfl⟩ | rfl
      · by_cases same : p = q
        · subst same
          exact refl _ _
        · exact ⟨.cast, Conversion.classify_eq_ok_iff.mpr (.cast same allowed)⟩
      · cases a with
        | stringView | stringLiteral => exact ⟨.materialize, rfl⟩
        | ownedString => exact refl _ _
        | _ => cases text
      · exact refl _ _

theorem eq_null_of_null (converts : Convertible scalar a .null) : a = .null := by
  obtain ⟨way, outcome⟩ := converts
  cases Conversion.classify_eq_ok_iff.mp outcome
  rfl

theorem trans (first : Convertible .numeric a b) (second : Convertible .numeric b c) :
    Convertible .numeric a c := by
  by_cases missing : a = .null
  · subst missing
    rcases Ty.isNullable_iff.mp (null_iff.mp first) with masked | rfl
    · exact null_iff.mpr (Ty.isNullable_iff.mpr (.inl (second.isMasked masked)))
    · exact second
  · have present : b ≠ .null := by
      rintro rfl
      exact missing first.eq_null_of_null
    obtain ⟨keeps, allowed⟩ := (present_iff missing).mp first
    obtain ⟨keeps', allowed'⟩ := (present_iff present).mp second
    exact (present_iff missing).mpr
      ⟨fun masked => keeps' (keeps masked), numeric_canCast_trans allowed allowed'⟩

/-- What converts along a chain converts from its first type to its last. -/
theorem of_chain {first : Ty} {rest : List Ty}
    (chain : (first :: rest).IsChain (Convertible .numeric)) :
    Convertible .numeric first ((first :: rest).getLast (List.cons_ne_nil first rest)) := by
  induction rest generalizing first with
  | nil => exact refl _ first
  | cons next rest ih =>
    obtain ⟨step, later⟩ := List.isChain_cons_cons.mp chain
    rw [List.getLast_cons (List.cons_ne_nil next rest)]
    exact step.trans (ih later)

/-- A mask anywhere in a chain is still there at its end. -/
theorem isMasked_getLast {types : List Ty} (nonempty : types ≠ [])
    (chain : types.IsChain (Convertible scalar)) (member : ty ∈ types) (masked : ty.isMasked) :
    (types.getLast nonempty).isMasked := by
  induction types generalizing ty with
  | nil => cases member
  | cons first rest ih =>
    cases rest with
    | nil =>
      cases List.mem_singleton.mp member
      exact masked
    | cons next rest =>
      obtain ⟨step, later⟩ := List.isChain_cons_cons.mp chain
      rw [List.getLast_cons (List.cons_ne_nil next rest)]
      rcases List.mem_cons.mp member with rfl | inRest
      · exact ih _ later List.mem_cons_self (step.isMasked masked)
      · exact ih _ later inRest masked

end Convertible

/-- What a classification promises whatever the scalar typing answers. -/
structure Conversion.ClassifiesSafely (scalar : ScalarTyping) (source target : Ty) : Prop where
  exact_iff : classify scalar source target = .ok .exact ↔ source = target
  unmasking : source.isMasked ∨ source = .null → target.isMasked = false → target ≠ source →
    classify scalar source target = .error (.incompatibleCast source.name target.name)
  copying : source = .stringView ∨ source = .stringLiteral →
    target = .ownedString ∨ target = .maskedString →
    classify scalar source target ≠ .ok .cast ∧ classify scalar source target ≠ .ok .wrapValid

theorem Conversion.classifiesSafely (scalar : ScalarTyping) (source target : Ty) :
    ClassifiesSafely scalar source target where
  exact_iff := classify_eq_exact_iff
  unmasking missing := classify_of_isNullable (Ty.isNullable_iff.mpr missing)
  copying borrowed owned :=
    ⟨fun converts => (copies_of_classify borrowed owned converts).1 rfl,
      fun converts => (copies_of_classify borrowed owned converts).2 rfl⟩

/-- Conversions compose along chains of any length and never unmask. -/
theorem conversions_compose (types : List Ty) (nonempty : types ≠ [])
    (chain : types.IsChain (Convertible .numeric)) :
    Convertible .numeric (types.head nonempty) (types.getLast nonempty) ∧
      ((∃ ty ∈ types, ty.isMasked) → (types.getLast nonempty).isMasked) ∧
      ∀ scalar source target, Conversion.ClassifiesSafely scalar source target := by
  refine ⟨?_, ?_, Conversion.classifiesSafely⟩
  · cases types with
    | nil => contradiction
    | cons first rest => exact Convertible.of_chain chain
  · rintro ⟨ty, member, masked⟩
    exact Convertible.isMasked_getLast nonempty chain member masked

def literalToMask : List Ty := [.stringLiteral, .ownedString, .maskedString, .maskedString]

/-- At once the literal is copied and masked in one conversion. -/
theorem literalToMask_composes :
    literalToMask ≠ [] ∧ literalToMask.IsChain (Convertible .numeric) ∧
      Convertible .numeric .stringLiteral .maskedString ∧ Ty.maskedString.isMasked ∧
      Conversion.classify .numeric .stringLiteral .maskedString = .ok .materializeValid := by
  have nonempty : literalToMask ≠ [] := List.cons_ne_nil _ _
  have chain : literalToMask.IsChain (Convertible .numeric) :=
    List.isChain_cons_cons.mpr ⟨⟨.materialize, rfl⟩, List.isChain_cons_cons.mpr ⟨⟨.wrapValid, rfl⟩,
      List.isChain_cons_cons.mpr ⟨⟨.exact, rfl⟩, List.isChain_singleton _⟩⟩⟩
  obtain ⟨converts, keeps, _⟩ := conversions_compose literalToMask nonempty chain
  exact ⟨nonempty, chain, converts, keeps ⟨.maskedString, by decide, rfl⟩, rfl⟩

end RowTyping
