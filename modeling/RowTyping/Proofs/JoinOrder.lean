import RowTyping.Proofs.Join
import RowTyping.Proofs.PromotionOrder

/-! The order behind joins. A type is below another when joining the two yields the other.
Bare types are compared by their scalar join and masks by whether they are there; `NA` is
below itself and every mask. A join is above its operands and, with one exception among
numbers, below whatever else is. -/

namespace RowTyping

variable {a b c ty joined : Ty}

namespace ScalarTyping

/-- The scalar join of the two types is the second. -/
def NumericFits (a b : Ty) : Prop := numeric.unify a b = some b

theorem numericFits_iff :
    NumericFits a b ↔ (∃ p q, a = .primitive p ∧ b = .primitive q ∧ p.Fits q) ∨ a = b ∨
      (a.isString ∧ b = .ownedString) := by
  constructor
  · intro fits
    rcases numeric_unify_cases fits with ⟨p, q, r, rfl, rfl, same, promoted⟩ | same | text
    · cases same
      exact .inl ⟨p, q, rfl, rfl, (Primitive.unify?_eq_right_iff p q).mp promoted⟩
    · exact .inr (.inl same.1)
    · exact .inr (.inr ⟨text.1, text.2.2⟩)
  · rintro (⟨p, q, rfl, rfl, fits⟩ | rfl | ⟨text, rfl⟩)
    · exact congrArg (Option.map Ty.primitive) ((Primitive.unify?_eq_right_iff p q).mpr fits)
    · cases a with
      | primitive p =>
        exact congrArg (Option.map Ty.primitive)
          ((Primitive.unify?_eq_right_iff p p).mpr (.refl p))
      | _ => simp [NumericFits, numeric]
    · cases a with
      | stringView | ownedString | stringLiteral => rfl
      | _ => cases text

theorem NumericFits.refl (a : Ty) : NumericFits a a := numericFits_iff.mpr (.inr (.inl rfl))

theorem NumericFits.trans (first : NumericFits a b) (second : NumericFits b c) :
    NumericFits a c := by
  rcases numericFits_iff.mp first with ⟨p, q, rfl, rfl, fits⟩ | rfl | ⟨text, rfl⟩
  · rcases numericFits_iff.mp second with ⟨_, r, same, rfl, fitsNext⟩ | rfl | ⟨text, rfl⟩
    · cases same
      exact numericFits_iff.mpr (.inl ⟨p, r, rfl, rfl, fits.trans fitsNext⟩)
    · exact first
    · cases text
  · exact second
  · rcases numericFits_iff.mp second with ⟨_, _, same, _⟩ | rfl | ⟨_, rfl⟩
    · cases same
    · exact first
    · exact first

theorem NumericFits.primitive (fits : NumericFits (.primitive p) c) :
    ∃ q, c = .primitive q ∧ p.Fits q := by
  rcases numericFits_iff.mp fits with ⟨_, q, same, rfl, fits⟩ | rfl | ⟨text, _⟩
  · cases same
    exact ⟨q, rfl, fits⟩
  · exact ⟨p, rfl, .refl p⟩
  · cases text

theorem numeric_unify_fits (scalarJoin : numeric.unify a b = some ty) : NumericFits a ty := by
  rcases numeric_unify_cases scalarJoin with ⟨p, q, r, rfl, rfl, rfl, promoted⟩ | same | text
  · exact numericFits_iff.mpr (.inl ⟨p, r, rfl, rfl, (Primitive.unify?_fits promoted).1⟩)
  · exact numericFits_iff.mpr (.inr (.inl same.1))
  · exact numericFits_iff.mpr (.inr (.inr ⟨text.1, text.2.2⟩))

/-- The bound into which two integers may fit while their join does not. -/
def Overshoots (a b bound : Ty) : Prop :=
  bound = .primitive .float32 ∧ (a = .primitive (.uint .w16) ∨ b = .primitive (.uint .w16))

/-- A scalar join fits into whatever both operands fit, with one exception. -/
theorem numeric_unify_least (scalarJoin : numeric.unify a b = some ty) (left : NumericFits a c)
    (right : NumericFits b c) : NumericFits ty c ∨ Overshoots a b c := by
  rcases numeric_unify_cases scalarJoin with ⟨p, q, r, rfl, rfl, rfl, promoted⟩ | same | text
  · obtain ⟨bound, rfl, leftFits⟩ := left.primitive
    obtain ⟨_, same, rightFits⟩ := right.primitive
    cases same
    rcases Primitive.unify?_least promoted leftFits rightFits with fits | ⟨rfl, sides⟩
    · exact .inl (numericFits_iff.mpr (.inl ⟨r, bound, rfl, rfl, fits⟩))
    · exact .inr ⟨rfl, sides.imp (congrArg Ty.primitive) (congrArg Ty.primitive)⟩
  · exact .inl (same.1 ▸ left)
  · obtain ⟨isText, _, rfl⟩ := text
    left
    rcases numericFits_iff.mp left with ⟨p, _, rfl, _⟩ | rfl | ⟨_, rfl⟩
    · cases isText
    · -- The bound is the first operand, so the join with the second is the bound itself.
      rw [numeric_unify_comm] at scalarJoin
      have same : a = .ownedString := Option.some.inj (right.symm.trans scalarJoin)
      exact same ▸ .refl a
    · exact .refl _

private theorem numeric_unify_text (left : a.isString) (right : b.isString) :
    numeric.unify a b = some (if a = b then a else .ownedString) := by
  cases a <;> cases left <;> cases b <;> cases right <;> rfl

theorem numeric_unify_of_fits (left : NumericFits a c) (right : NumericFits b c) :
    ∃ ty, numeric.unify a b = some ty := by
  rcases numericFits_iff.mp left with ⟨p, q, rfl, rfl, fits⟩ | rfl | ⟨text, rfl⟩
  · rcases numericFits_iff.mp right with ⟨r, _, rfl, same, fits'⟩ | rfl | ⟨_, same⟩
    · cases same
      obtain ⟨j, promoted⟩ := Primitive.unify?_of_family (fits.1.trans fits'.1.symm)
      exact ⟨.primitive j, congrArg (Option.map Ty.primitive) promoted⟩
    · exact ⟨_, left⟩
    · cases same
  · exact ⟨_, (numeric_unify_comm _ _).trans right⟩
  · rcases numericFits_iff.mp right with ⟨_, _, _, same, _⟩ | rfl | ⟨text', _⟩
    · cases same
    · exact ⟨_, left⟩
    · exact ⟨_, numeric_unify_text text text'⟩

end ScalarTyping

namespace Ty

open ScalarTyping

private theorem ext_unmasked (bare : a.unmasked = b.unmasked) (masks : a.isMasked = b.isMasked) :
    a = b := by
  cases first : a.isMasked with
  | true =>
    obtain ⟨value, rfl⟩ := eq_masked_of_isMasked first
    obtain ⟨other, rfl⟩ := eq_masked_of_isMasked (masks ▸ first)
    cases value <;> cases other <;> cases bare <;> rfl
  | false =>
    rw [unmasked_of_not_isMasked first, unmasked_of_not_isMasked (masks ▸ first)] at bare
    exact bare

/-- What a join of types other than `NA` is made of. -/
theorem unify_eq_ok_iff (left : a ≠ .null) (right : b ≠ .null) :
    unify .numeric a b = .ok joined ↔
      joined ≠ .null ∧ numeric.unify a.unmasked b.unmasked = some joined.unmasked ∧
        joined.isMasked = (a.isMasked || b.isMasked) := by
  rw [unify_eq_lift numeric_symmetric left right]
  cases scalarJoin : numeric.unify a.unmasked b.unmasked with
  | none => simp
  | some ty =>
    obtain ⟨lifted, same, present, bare, masks⟩ := lift_join left scalarJoin
    simp only [same, Except.ok.injEq, Option.some.injEq]
    constructor
    · rintro rfl
      exact ⟨present, bare.symm, masks⟩
    · rintro ⟨_, bare', masks'⟩
      exact ext_unmasked (bare.trans bare') (masks.trans masks'.symm)

/-- Joining the two types yields the second. -/
def Below (a b : Ty) : Prop := unify .numeric a b = .ok b

theorem below_null_iff : Below a .null ↔ a = .null := by
  constructor
  · intro below
    unfold Below at below
    rw [unify_null_right] at below
    split at below
    · exact Except.ok.inj below
    · obtain ⟨_, _, masked⟩ := mask_eq_ok_iff.mp below
      cases masked
  · rintro rfl
    rfl

theorem null_below_iff : Below .null b ↔ b.isNullable := by
  constructor
  · intro below
    exact unify_isNullable below
  · intro nullable
    unfold Below
    rw [unify_null_left, if_pos nullable]

/-- Types other than `NA` are compared bare, and a mask is never lost. -/
theorem below_iff (left : a ≠ .null) (right : b ≠ .null) :
    Below a b ↔ NumericFits a.unmasked b.unmasked ∧ (a.isMasked → b.isMasked) := by
  unfold Below NumericFits
  rw [unify_eq_ok_iff left right]
  cases a.isMasked <;> cases b.isMasked <;> simp [right]

theorem Below.refl (a : Ty) : Below a a := by
  by_cases absent : a = .null
  · exact absent ▸ rfl
  · exact (below_iff absent absent).mpr ⟨.refl _, id⟩

theorem Below.ne_null (below : Below a b) (present : a ≠ .null) : b ≠ .null := by
  rintro rfl
  exact present (below_null_iff.mp below)

theorem Below.isNullable (below : Below a b) (nullable : a.isNullable) : b.isNullable := by
  have either := unify_isNullable below
  rw [nullable] at either
  exact either

theorem Below.trans (first : Below a b) (second : Below b c) : Below a c := by
  by_cases absent : a = .null
  · subst absent
    exact null_below_iff.mpr (second.isNullable (null_below_iff.mp first))
  · have middle := first.ne_null absent
    have last := second.ne_null middle
    obtain ⟨fits, masks⟩ := (below_iff absent middle).mp first
    obtain ⟨fits', masks'⟩ := (below_iff middle last).mp second
    exact (below_iff absent last).mpr ⟨fits.trans fits', masks' ∘ masks⟩

theorem Below.antisymm (first : Below a b) (second : Below b a) : a = b := by
  have swapped : unify .numeric a b = .ok a := (unify_eq_ok_comm numeric_symmetric).mp second
  exact Except.ok.inj (swapped.symm.trans first)

theorem below_mask (masked : mask a = .ok ty) : Below a ty := by
  obtain ⟨value, covered, rfl⟩ := mask_eq_ok_iff.mp masked
  cases a with
  | primitive p =>
    cases covered
    exact (below_iff (by simp) (by simp)).mpr ⟨.refl _, fun _ => rfl⟩
  | stringView | ownedString =>
    cases covered
    refine (below_iff (by simp) (by simp)).mpr ⟨?_, fun _ => rfl⟩
    exact numericFits_iff.mpr (.inr (.inr ⟨rfl, rfl⟩))
  | _ => cases covered

theorem unify_below_left (joins : unify .numeric a b = .ok joined) : Below a joined := by
  by_cases left : a = .null
  · subst left
    exact null_below_iff.mpr (unify_isNullable joins)
  by_cases right : b = .null
  · subst right
    rw [unify_null_right] at joins
    split at joins
    · cases joins
      exact .refl a
    · exact below_mask joins
  obtain ⟨present, scalarJoin, masks⟩ := (unify_eq_ok_iff left right).mp joins
  refine (below_iff left present).mpr ⟨numeric_unify_fits scalarJoin, ?_⟩
  intro masked
  rw [masks, masked, Bool.true_or]

theorem unify_below_right (joins : unify .numeric a b = .ok joined) : Below b joined :=
  unify_below_left ((unify_eq_ok_comm numeric_symmetric).mp joins)

/-- A mask is below every nullable type above the one it was made for. -/
theorem mask_least (masked : mask a = .ok ty) (below : Below a c) (nullable : c.isNullable) :
    Below ty c := by
  obtain ⟨value, covered, rfl⟩ := mask_eq_ok_iff.mp masked
  have present : a ≠ .null := by
    rintro rfl
    cases covered
  have bound := below.ne_null present
  obtain ⟨fits, _⟩ := (below_iff present bound).mp below
  have hasMask : c.isMasked := isNullable_of_ne_null bound ▸ nullable
  obtain ⟨target, rfl⟩ := eq_masked_of_isMasked hasMask
  refine (below_iff (by simp) bound).mpr ⟨?_, fun _ => rfl⟩
  cases a with
  | primitive | ownedString =>
    cases covered
    exact fits
  | stringView =>
    cases covered
    -- No mask covers a view, so the bound covers an owned string.
    cases target with
    | primitive => cases fits
    | ownedString => exact .refl _
  | _ => cases covered

theorem unify_null_least (joins : unify .numeric .null b = .ok joined)
    (left : Below .null c) (right : Below b c) : Below joined c := by
  rw [unify_null_left] at joins
  split at joins
  · cases joins
    exact right
  · exact mask_least joins right (null_below_iff.mp left)

/-- A join is below whatever both operands are below, with one exception among numbers. -/
theorem unify_least (joins : unify .numeric a b = .ok joined) (left : Below a c)
    (right : Below b c) : Below joined c ∨ Overshoots a.unmasked b.unmasked c.unmasked := by
  by_cases first : a = .null
  · subst first
    exact .inl (unify_null_least joins left right)
  by_cases second : b = .null
  · subst second
    exact .inl (unify_null_least ((unify_eq_ok_comm numeric_symmetric).mp joins) right left)
  have bound := left.ne_null first
  obtain ⟨present, scalarJoin, masks⟩ := (unify_eq_ok_iff first second).mp joins
  obtain ⟨leftFits, leftMasks⟩ := (below_iff first bound).mp left
  obtain ⟨rightFits, rightMasks⟩ := (below_iff second bound).mp right
  rcases numeric_unify_least scalarJoin leftFits rightFits with fits | overshoots
  · refine .inl ((below_iff present bound).mpr ⟨fits, ?_⟩)
    intro masked
    rw [masks, Bool.or_eq_true] at masked
    exact masked.elim leftMasks rightMasks
  · exact .inr overshoots

def LacksJoin (a b : Ty) : Prop :=
  (a = .null ∧ b = .stringLiteral) ∨ (a = .stringLiteral ∧ b = .null)

private theorem unify_null_of_below (left : Below .null c) (right : Below b c)
    (noLiteral : b ≠ .stringLiteral) : ∃ joined, unify .numeric .null b = .ok joined := by
  by_cases present : b = .null
  · subst present
    exact ⟨.null, rfl⟩
  have bound := right.ne_null present
  obtain ⟨fits, _⟩ := (below_iff present bound).mp right
  have hasMask : c.isMasked := isNullable_of_ne_null bound ▸ null_below_iff.mp left
  obtain ⟨target, rfl⟩ := eq_masked_of_isMasked hasMask
  cases b with
  | null | stringLiteral => contradiction
  | masked value => exact ⟨.masked value, rfl⟩
  | primitive p => exact ⟨.masked (.primitive p), rfl⟩
  | stringView | ownedString => exact ⟨.masked .ownedString, rfl⟩
  | external name => cases target <;> cases fits

/-- Two types below a third have a join, `NA` and a string literal apart. -/
theorem unify_of_below (left : Below a c) (right : Below b c) (joinable : ¬ LacksJoin a b) :
    ∃ joined, unify .numeric a b = .ok joined := by
  by_cases first : a = .null
  · subst first
    exact unify_null_of_below left right fun literal => joinable (.inl ⟨rfl, literal⟩)
  by_cases second : b = .null
  · subst second
    obtain ⟨joined, joins⟩ :=
      unify_null_of_below right left fun literal => joinable (.inr ⟨literal, rfl⟩)
    exact ⟨joined, (unify_eq_ok_comm numeric_symmetric).mp joins⟩
  have bound := left.ne_null first
  obtain ⟨ty, scalarJoin⟩ := numeric_unify_of_fits ((below_iff first bound).mp left).1
    ((below_iff second bound).mp right).1
  obtain ⟨joined, lifted, _⟩ := lift_join first scalarJoin
  exact ⟨joined, by rw [unify_eq_lift numeric_symmetric first second, scalarJoin]; exact lifted⟩

theorem below_literal_iff : Below a .stringLiteral ↔ a = .stringLiteral := by
  constructor
  · intro below
    by_cases absent : a = .null
    · subst absent
      cases null_below_iff.mp below
    obtain ⟨fits, masks⟩ := (below_iff absent (by simp)).mp below
    have bare : a.isMasked = false := by
      cases masked : a.isMasked with
      | true => cases masks masked
      | false => rfl
    rw [unmasked_of_not_isMasked bare] at fits
    rcases numericFits_iff.mp fits with ⟨_, _, _, same, _⟩ | same | ⟨_, same⟩
    · cases same
    · exact same
    · cases same
  · rintro rfl
    exact .refl _

private theorem mask_primitive (masked : mask a = .ok ty) (bare : ty.unmasked = .primitive p) :
    a.unmasked = .primitive p := by
  obtain ⟨value, covered, rfl⟩ := mask_eq_ok_iff.mp masked
  cases a with
  | primitive =>
    cases covered
    exact bare
  | stringView | ownedString =>
    cases covered
    cases bare
  | _ => cases covered

private theorem unify_null_primitive (joins : unify .numeric .null b = .ok joined)
    (bare : joined.unmasked = .primitive p) : b.unmasked = .primitive p := by
  rw [unify_null_left] at joins
  split at joins
  · cases joins
    exact bare
  · exact mask_primitive joins bare

/-- Promotion creates signed integers and `float64` only, so another number in a join comes
from an operand. -/
theorem unify_primitive_origin (joins : unify .numeric a b = .ok joined)
    (bare : joined.unmasked = .primitive p) (unsigned : p.isSigned = false)
    (narrow : p ≠ .float64) : a.unmasked = .primitive p ∨ b.unmasked = .primitive p := by
  by_cases first : a = .null
  · subst first
    exact .inr (unify_null_primitive joins bare)
  by_cases second : b = .null
  · subst second
    exact .inl (unify_null_primitive ((unify_eq_ok_comm numeric_symmetric).mp joins) bare)
  obtain ⟨_, scalarJoin, _⟩ := (unify_eq_ok_iff first second).mp joins
  rw [bare] at scalarJoin
  rcases numeric_unify_cases scalarJoin with ⟨q, r, s, left, right, same, promoted⟩ | same | text
  · cases same
    rcases Primitive.unify?_origin promoted with rfl | rfl | signed | wide
    · exact .inl left
    · exact .inr right
    · rw [unsigned] at signed
      cases signed
    · contradiction
  · exact .inl same.1
  · cases text.2.2

end Ty

end RowTyping
