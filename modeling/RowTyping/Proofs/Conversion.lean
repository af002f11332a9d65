import RowTyping.Conversion

namespace RowTyping.Conversion

theorem classify_self (scalar : ScalarTyping) (ty : Ty) : classify scalar ty ty = .ok .exact := by
  simp [classify]

@[simp] theorem ifCast_eq_ok_iff :
    ifCast allowed conversion source target = .ok answer ↔
      allowed = true ∧ conversion = answer := by
  unfold ifCast
  split <;> simp_all

/-- Nothing has to be done exactly when the types are equal. -/
theorem classify_eq_exact_iff {scalar : ScalarTyping} :
    classify scalar source target = .ok .exact ↔ source = target := by
  constructor
  · intro outcome
    by_cases same : source = target
    · exact same
    · unfold classify at outcome
      rw [if_neg same] at outcome
      split at outcome <;> simp at outcome
  · rintro rfl
    exact classify_self scalar source

theorem classify_text_owned (scalar : ScalarTyping)
    (text : source = .stringView ∨ source = .stringLiteral) :
    classify scalar source .ownedString = .ok .materialize := by
  rcases text with rfl | rfl <;> rfl

theorem classify_text_masked (scalar : ScalarTyping)
    (text : source = .stringView ∨ source = .stringLiteral) :
    classify scalar source .maskedString = .ok .materializeValid := by
  rcases text with rfl | rfl <;> rfl

end RowTyping.Conversion
