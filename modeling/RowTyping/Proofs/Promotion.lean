import RowTyping.Scalar.Promotion

namespace RowTyping

theorem TimeUnit.finer_comm (a b : TimeUnit) : a.finer b = b.finer a := by
  cases a <;> cases b <;> rfl

private theorem Width.wider_comm (a b : Width) : a.wider b = b.wider a := by
  cases a <;> cases b <;> rfl

namespace Primitive

theorem promote?_comm (a b : Primitive) : promote? a b = promote? b a := by
  cases a <;> cases b
  case int.int first second =>
    exact congrArg (fun width => some (int width)) (Width.wider_comm first second)
  case uint.uint first second =>
    exact congrArg (fun width => some (uint width)) (Width.wider_comm first second)
  all_goals rfl

private theorem promoteMixed_isNumberLike (signed unsigned : Width) :
    (promoteMixed signed unsigned).isNumberLike := by
  cases signed <;> cases unsigned <;> rfl

private theorem promoteFloat_isNumberLike (float integer : Primitive) :
    (promoteFloat float integer).isNumberLike := by
  unfold promoteFloat
  split
  · split <;> rfl
  · rfl

/-- Only numbers and truth values promote, and only to such types. -/
theorem promote?_isNumberLike (promoted : promote? a b = some p) :
    a.isNumberLike ∧ b.isNumberLike ∧ p.isNumberLike := by
  cases a <;> cases b <;> cases promoted
  case int.uint.refl | uint.int.refl => exact ⟨rfl, rfl, promoteMixed_isNumberLike _ _⟩
  case float32.int.refl | float32.uint.refl | int.float32.refl | uint.float32.refl =>
    exact ⟨rfl, rfl, promoteFloat_isNumberLike _ _⟩
  all_goals exact ⟨rfl, rfl, rfl⟩

theorem unify?_comm (a b : Primitive) : unify? a b = unify? b a := by
  have promotion : (if a = b then some a else promote? a b) =
      if b = a then some b else promote? b a := by
    by_cases same : a = b
    · rw [same]
    · rw [if_neg same, if_neg (Ne.symm same), promote?_comm]
  cases a <;> cases b
  case datetime.datetime first second =>
    exact congrArg (fun unit => some (datetime unit)) (TimeUnit.finer_comm first second)
  case timedelta.timedelta first second =>
    exact congrArg (fun unit => some (timedelta unit)) (TimeUnit.finer_comm first second)
  all_goals exact promotion

theorem canCast_self (p : Primitive) : canCast p p := by
  cases p <;> simp [canCast]

private theorem canCast_of_isNumberLike (source : a.isNumberLike) (target : b.isNumberLike) :
    canCast a b := by
  unfold canCast
  split
  · rfl
  · rfl
  · simp [source, target]

/-- Both operands convert to their common type. -/
theorem unify?_canCast (joined : unify? a b = some p) : canCast a p ∧ canCast b p := by
  unfold unify? at joined
  split at joined
  · cases joined
    exact ⟨rfl, rfl⟩
  · cases joined
    exact ⟨rfl, rfl⟩
  · split at joined
    next same =>
      cases joined
      exact ⟨canCast_self _, same ▸ canCast_self _⟩
    next =>
      obtain ⟨left, right, result⟩ := promote?_isNumberLike joined
      exact ⟨canCast_of_isNumberLike left result, canCast_of_isNumberLike right result⟩

end Primitive

namespace ScalarTyping

theorem numeric_binary_primitive (typed : numeric.binary op a b = some ty) :
    ∃ p, ty = .primitive p := by
  simp only [numeric] at typed
  split at typed
  · obtain ⟨p, _, rfl⟩ := Option.map_eq_some_iff.mp typed
    exact ⟨p, rfl⟩
  · split at typed
    · cases typed
      exact ⟨.bool, rfl⟩
    · cases typed

theorem numeric_unary_primitive (typed : numeric.unary op a = some ty) :
    ∃ p, ty = .primitive p := by
  simp only [numeric] at typed
  split at typed
  · obtain ⟨p, _, rfl⟩ := Option.map_eq_some_iff.mp typed
    exact ⟨p, rfl⟩
  · cases typed

theorem numeric_unify_comm (a b : Ty) : numeric.unify a b = numeric.unify b a := by
  have text : (if a = b then some a else if a.isString && b.isString then some .ownedString
      else none) = if b = a then some b else if b.isString && a.isString then some .ownedString
      else none := by
    by_cases same : a = b
    · rw [same]
    · rw [if_neg same, if_neg (Ne.symm same), Bool.and_comm]
  cases a with
  | primitive p =>
    cases b with
    | primitive q => exact congrArg (Option.map Ty.primitive) (Primitive.unify?_comm p q)
    | _ => exact text
  | _ => cases b <;> exact text

end ScalarTyping

end RowTyping
