import RowTyping.Proofs.Conversion
import RowTyping.Proofs.Lifting
import RowTyping.Unify

namespace RowTyping

variable {scalar : ScalarTyping} {a b ty joined : Ty}

/-- The scalar join does not depend on the order of its operands. -/
def ScalarTyping.Symmetric (scalar : ScalarTyping) : Prop :=
  ∀ a b, scalar.unify a b = scalar.unify b a

namespace Ty

theorem unify_eq_lift (symmetric : scalar.Symmetric) (left : a ≠ .null) (right : b ≠ .null) :
    unify scalar a b =
      match scalar.unify a.unmasked b.unmasked with
      | some joined => joined.lift (a.isMasked || b.isMasked)
      | none => .error (.noCommonType a.name b.name) := by
  cases a with
  | null => contradiction
  | masked value =>
    cases b with
    | null => contradiction
    | _ => rfl
  | _ =>
    cases b with
    | null => contradiction
    | masked value =>
      rw [symmetric]
      rfl
    | _ => rfl

theorem unify_null_left (scalar : ScalarTyping) (b : Ty) :
    unify scalar .null b = if b.isNullable then .ok b else b.mask := by
  cases b <;> rfl

theorem unify_null_right (scalar : ScalarTyping) (a : Ty) :
    unify scalar a .null = if a.isNullable then .ok a else a.mask := by
  cases a <;> rfl

end Ty

/-- A value converts to a mask when the bare value converts to what the mask covers. -/
theorem Conversion.classify_masked (cast : scalar.canCast (Ty.unmasked a) value.type = true) :
    ∃ way, classify scalar a (.masked value) = .ok way := by
  cases a with
  | null => exact ⟨.nullToMasked, rfl⟩
  | masked other =>
    by_cases same : other = value
    · exact ⟨.exact, classify_eq_exact_iff.mpr (same ▸ rfl)⟩
    · have allowed : scalar.canCast other.type value.type = true := cast
      exact ⟨.cast, by simp [classify, same, allowed]⟩
  | stringView | stringLiteral =>
    cases value with
    | ownedString => exact ⟨.materializeValid, rfl⟩
    | primitive p => exact ⟨.wrapValid, ifCast_eq_ok_iff.mpr ⟨cast, rfl⟩⟩
  | _ => exact ⟨.wrapValid, ifCast_eq_ok_iff.mpr ⟨cast, rfl⟩⟩

theorem Conversion.classify_null (target : ty.isNullable) :
    ∃ way, classify scalar .null ty = .ok way := by
  cases ty with
  | null => exact ⟨.exact, rfl⟩
  | masked value => exact ⟨.nullToMasked, rfl⟩
  | _ => cases target

namespace ScalarTyping

theorem numeric_symmetric : numeric.Symmetric := numeric_unify_comm

/-- What a scalar join yields: a common primitive, one of two equal types, or an owned string
for two texts. -/
theorem numeric_unify_cases (joined : numeric.unify a b = some ty) :
    (∃ p q r, a = .primitive p ∧ b = .primitive q ∧ ty = .primitive r ∧
      Primitive.unify? p q = some r) ∨
    (a = ty ∧ b = ty) ∨ (a.isString ∧ b.isString ∧ ty = .ownedString) := by
  simp only [numeric] at joined
  split at joined
  · obtain ⟨r, promoted, rfl⟩ := Option.map_eq_some_iff.mp joined
    exact .inl ⟨_, _, r, rfl, rfl, rfl, promoted⟩
  · split at joined
    next same =>
      cases joined
      exact .inr (.inl ⟨rfl, same.symm⟩)
    next =>
      split at joined
      next texts =>
        cases joined
        rw [Bool.and_eq_true] at texts
        exact .inr (.inr ⟨texts.1, texts.2, rfl⟩)
      next => cases joined

private theorem numeric_unify_value (joined : numeric.unify (MaskedValue.type value) b = some ty) :
    ∃ result : MaskedValue, ty = result.type := by
  rcases numeric_unify_cases joined with ⟨_, _, r, _, _, rfl, _⟩ | ⟨rfl, _⟩ | ⟨_, _, rfl⟩
  · exact ⟨.primitive r, rfl⟩
  · exact ⟨value, rfl⟩
  · exact ⟨.ownedString, rfl⟩

theorem numeric_canCast_self (ty : Ty) : numeric.canCast ty ty := by
  cases ty with
  | primitive p => exact Primitive.canCast_self p
  | ownedString => rfl
  | _ => simp [numeric]

private theorem numeric_unify_canCast (joined : numeric.unify a b = some ty) :
    numeric.canCast a ty := by
  rcases numeric_unify_cases joined with
    ⟨_, _, r, rfl, _, rfl, promoted⟩ | ⟨rfl, _⟩ | ⟨text, _, rfl⟩
  · exact (Primitive.unify?_canCast promoted).1
  · exact numeric_canCast_self a
  · cases a with
    | primitive p => cases text
    | _ => exact text

private theorem numeric_unify_classify (joined : numeric.unify a b = some ty) :
    ∃ way, Conversion.classify numeric a ty = .ok way := by
  by_cases same : a = ty
  · exact ⟨.exact, Conversion.classify_eq_exact_iff.mpr same⟩
  rcases numeric_unify_cases joined with
    ⟨p, _, r, rfl, _, rfl, _⟩ | ⟨equal, _⟩ | ⟨text, _, rfl⟩
  · exact ⟨.cast, by simpa [Conversion.classify, same] using numeric_unify_canCast joined⟩
  · contradiction
  · cases a with
    | stringView | stringLiteral => exact ⟨.materialize, rfl⟩
    | ownedString => contradiction
    | _ => cases text

end ScalarTyping

namespace Ty

theorem unify_eq_ok_comm (symmetric : scalar.Symmetric) :
    unify scalar a b = .ok joined ↔ unify scalar b a = .ok joined := by
  by_cases left : a = .null
  · rw [left, unify_null_left, unify_null_right]
  by_cases right : b = .null
  · rw [right, unify_null_left, unify_null_right]
  rw [unify_eq_lift symmetric left right, unify_eq_lift symmetric right left, symmetric,
    Bool.or_comm]
  cases scalar.unify b.unmasked a.unmasked <;> simp

theorem mask_eq_ok_iff :
    mask a = .ok ty ↔ ∃ value, MaskedValue.ofTy? a = some value ∧ ty = .masked value := by
  unfold mask
  cases MaskedValue.ofTy? a <;> simp [eq_comm]

/-- A join of bare type, and it can be masked where an operand was. -/
theorem lift_join (left : a ≠ .null)
    (scalarJoin : ScalarTyping.numeric.unify a.unmasked b.unmasked = some ty) :
    ∃ joined, ty.lift (a.isMasked || b.isMasked) = .ok joined ∧ joined ≠ .null ∧
      joined.unmasked = ty ∧ joined.isMasked = (a.isMasked || b.isMasked) := by
  cases masked : a.isMasked || b.isMasked with
  | true =>
    have covered : ∃ value : MaskedValue, ty = value.type := by
      rcases (Bool.or_eq_true _ _).mp masked with first | second
      · obtain ⟨value, rfl⟩ := eq_masked_of_isMasked first
        exact ScalarTyping.numeric_unify_value scalarJoin
      · obtain ⟨value, rfl⟩ := eq_masked_of_isMasked second
        rw [ScalarTyping.numeric_unify_comm] at scalarJoin
        exact ScalarTyping.numeric_unify_value scalarJoin
    obtain ⟨value, rfl⟩ := covered
    exact ⟨.masked value, by simp, by simp, rfl, rfl⟩
  | false =>
    refine ⟨ty, rfl, ?_⟩
    rcases ScalarTyping.numeric_unify_cases scalarJoin with
      ⟨_, _, r, _, _, rfl, _⟩ | ⟨rfl, _⟩ | ⟨_, _, rfl⟩
    · exact ⟨by simp, rfl, rfl⟩
    · simpa using left
    · exact ⟨by simp, rfl, rfl⟩

theorem isNullable_of_mask (masked : mask a = .ok ty) : ty.isNullable := by
  obtain ⟨value, _, rfl⟩ := mask_eq_ok_iff.mp masked
  rfl

private theorem unify_null_isNullable (joins : unify scalar .null b = .ok joined) :
    joined.isNullable := by
  rw [unify_null_left] at joins
  split at joins
  next nullable =>
    cases joins
    exact nullable
  next => exact isNullable_of_mask joins

/-- A join may be missing exactly when a branch may be. -/
theorem unify_isNullable (joins : unify .numeric a b = .ok joined) :
    joined.isNullable = (a.isNullable || b.isNullable) := by
  by_cases left : a = .null
  · subst left
    exact unify_null_isNullable joins
  by_cases right : b = .null
  · subst right
    have swapped := (unify_eq_ok_comm ScalarTyping.numeric_symmetric).mp joins
    rw [unify_null_isNullable swapped]
    simp [isNullable, isNull]
  rw [unify_eq_lift ScalarTyping.numeric_symmetric left right] at joins
  split at joins
  next scalarJoin =>
    obtain ⟨lifted, same, present, _, masked⟩ := lift_join left scalarJoin
    cases joins.symm.trans same
    rw [isNullable_of_ne_null left, isNullable_of_ne_null right, isNullable_of_ne_null present,
      masked]
  next => cases joins

theorem classify_mask (masked : mask a = .ok ty) :
    ∃ way, Conversion.classify .numeric a ty = .ok way := by
  obtain ⟨value, covered, rfl⟩ := mask_eq_ok_iff.mp masked
  apply Conversion.classify_masked
  cases a with
  | primitive p =>
    cases covered
    exact Primitive.canCast_self p
  | stringView | ownedString =>
    cases covered
    rfl
  | _ => cases covered

theorem unify_classify_left (joins : unify .numeric a b = .ok joined) :
    ∃ way, Conversion.classify .numeric a joined = .ok way := by
  by_cases left : a = .null
  · subst left
    exact Conversion.classify_null (unify_null_isNullable joins)
  by_cases right : b = .null
  · subst right
    rw [unify_null_right] at joins
    split at joins
    · cases joins
      exact ⟨.exact, Conversion.classify_self _ _⟩
    · exact classify_mask joins
  rw [unify_eq_lift ScalarTyping.numeric_symmetric left right] at joins
  split at joins
  next scalarJoin =>
    obtain ⟨lifted, same, present, bare, masked⟩ := lift_join left scalarJoin
    cases joins.symm.trans same
    cases covered : joined.isMasked with
    | true =>
      obtain ⟨value, rfl⟩ := eq_masked_of_isMasked covered
      apply Conversion.classify_masked
      subst bare
      exact ScalarTyping.numeric_unify_canCast scalarJoin
    | false =>
      have noMask : a.isMasked = false := by simp_all
      rw [unmasked_of_not_isMasked covered] at bare
      rw [unmasked_of_not_isMasked noMask, ← bare] at scalarJoin
      exact ScalarTyping.numeric_unify_classify scalarJoin
  next => cases joins

theorem unify_classify_right (joins : unify .numeric a b = .ok joined) :
    ∃ way, Conversion.classify .numeric b joined = .ok way :=
  unify_classify_left ((unify_eq_ok_comm ScalarTyping.numeric_symmetric).mp joins)

end Ty

end RowTyping
