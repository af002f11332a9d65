import RowTyping.Proofs.Promotion

namespace RowTyping

/-- Kinds of primitives, which never join with each other. -/
inductive Family where
  | number
  | instant
  | duration
  | object
deriving DecidableEq, Repr

/-- What a primitive can hold. -/
structure Extent where
  negative : Nat
  positive : Nat
  /-- How finely values are divided. -/
  precision : Nat
deriving DecidableEq, Repr

namespace Extent

instance : LE Extent where
  le a b := a.negative ≤ b.negative ∧ a.positive ≤ b.positive ∧ a.precision ≤ b.precision

instance (a b : Extent) : Decidable (a ≤ b) :=
  inferInstanceAs
    (Decidable (a.negative ≤ b.negative ∧ a.positive ≤ b.positive ∧ a.precision ≤ b.precision))

theorem le_refl (a : Extent) : a ≤ a := ⟨Nat.le_refl _, Nat.le_refl _, Nat.le_refl _⟩

theorem le_trans {a b c : Extent} (first : a ≤ b) (second : b ≤ c) : a ≤ c :=
  ⟨Nat.le_trans first.1 second.1, Nat.le_trans first.2.1 second.2.1,
    Nat.le_trans first.2.2 second.2.2⟩

end Extent

namespace Primitive

def family : Primitive → Family
  | .bool | .int _ | .uint _ | .float32 | .float64 => .number
  | .datetime _ => .instant
  | .timedelta _ => .duration
  | .object => .object

/-- A `float32` holds integers of 24 bits; a `float64` is taken to hold all of them. -/
def extent : Primitive → Extent
  | .bool => ⟨0, 1, 0⟩
  | .int width => ⟨width.bits - 1, width.bits - 1, 0⟩
  | .uint width => ⟨0, width.bits, 0⟩
  | .float32 => ⟨24, 24, 1⟩
  | .float64 => ⟨64, 64, 2⟩
  | .datetime unit | .timedelta unit => ⟨0, 0, unit.rank⟩
  | .object => ⟨0, 0, 0⟩

/-- Every value of the first type is one of the second. -/
def Fits (a b : Primitive) : Prop := a.family = b.family ∧ a.extent ≤ b.extent

instance (a b : Primitive) : Decidable (a.Fits b) :=
  inferInstanceAs (Decidable (a.family = b.family ∧ a.extent ≤ b.extent))

theorem Fits.refl (a : Primitive) : a.Fits a := ⟨rfl, Extent.le_refl _⟩

theorem Fits.trans (first : Fits a b) (second : Fits b c) : Fits a c :=
  ⟨first.1.trans second.1, Extent.le_trans first.2 second.2⟩

theorem mem_all (p : Primitive) : p ∈ all := by
  cases p with
  | int width | uint width => cases width <;> decide
  | datetime unit | timedelta unit => cases unit <;> decide
  | _ => decide

/-- Joining with a type into which the other one fits yields that type, and no other join
does. -/
theorem unify?_eq_right_iff (a b : Primitive) : unify? a b = some b ↔ a.Fits b := by
  -- Promotion is a table over finitely many types.
  have table : ∀ a ∈ all, ∀ b ∈ all, (unify? a b = some b ↔ a.Fits b) := by decide +kernel
  exact table a a.mem_all b b.mem_all

/-- A join that is neither of its operands: the sign and the bits come from different
integers, or an integer is too wide for `float32`. -/
inductive Widens : Primitive → Primitive → Primitive → Prop where
  | mixed (signed unsigned : Width) :
    Widens (.int signed) (.uint unsigned) (promoteMixed signed unsigned)
  | wide (integer : Primitive) (isInteger : integer.isInteger) (tooWide : ¬ integer.Fits .float32) :
    Widens .float32 integer .float64

private theorem promoteFloat_cases (float : a.isFloat) (integer : b.isInteger) :
    promoteFloat a b = a ∨ Widens a b (promoteFloat a b) := by
  cases a with
  | float64 => exact .inl rfl
  | float32 =>
    cases b with
    | int width =>
      cases width with
      | w8 | w16 => exact .inl rfl
      | w32 | w64 => exact .inr (.wide _ rfl (by decide))
    | uint width =>
      cases width with
      | w8 | w16 => exact .inl rfl
      | w32 | w64 => exact .inr (.wide _ rfl (by decide))
    | _ => cases integer
  | _ => cases float

private theorem promote?_cases (joined : promote? a b = some j) :
    j = a ∨ j = b ∨ Widens a b j ∨ Widens b a j := by
  unfold promote? at joined
  split at joined
  · split at joined
    · cases joined
      exact .inr (.inl rfl)
    · cases joined
  · split at joined
    · cases joined
      exact .inl rfl
    · cases joined
  · cases joined
    unfold Width.wider
    split
    · exact .inr (.inl rfl)
    · exact .inl rfl
  · cases joined
    unfold Width.wider
    split
    · exact .inr (.inl rfl)
    · exact .inl rfl
  · cases joined
    exact .inr (.inr (.inl (.mixed _ _)))
  · cases joined
    exact .inr (.inr (.inr (.mixed _ _)))
  · cases joined
    exact .inl rfl
  · cases joined
    exact .inr (.inl rfl)
  · cases joined
    exact .inl rfl
  · cases joined
    exact .inl rfl
  · split at joined
    next operands =>
      cases joined
      obtain ⟨float, integer⟩ := (Bool.and_eq_true _ _).mp operands
      rcases promoteFloat_cases float integer with same | widens
      · exact .inl same
      · exact .inr (.inr (.inl widens))
    next =>
      split at joined
      next operands =>
        cases joined
        obtain ⟨integer, float⟩ := (Bool.and_eq_true _ _).mp operands
        rcases promoteFloat_cases float integer with same | widens
        · exact .inr (.inl same)
        · exact .inr (.inr (.inr widens))
      next => cases joined

/-- A join is one of its operands, or it widens them. -/
theorem unify?_cases (joined : unify? a b = some j) :
    j = a ∨ j = b ∨ Widens a b j ∨ Widens b a j := by
  unfold unify? at joined
  split at joined
  · cases joined
    unfold TimeUnit.finer
    split
    · exact .inr (.inl rfl)
    · exact .inl rfl
  · cases joined
    unfold TimeUnit.finer
    split
    · exact .inr (.inl rfl)
    · exact .inl rfl
  · split at joined
    · cases joined
      exact .inl rfl
    · exact promote?_cases joined

theorem Widens.fits (widens : Widens a b j) : a.Fits j ∧ b.Fits j := by
  cases widens with
  | mixed signed unsigned => cases signed <;> cases unsigned <;> decide
  | wide integer isInteger =>
    cases b with
    | int width | uint width => cases width <;> decide
    | _ => cases isInteger

theorem unify?_fits (joined : unify? a b = some j) : a.Fits j ∧ b.Fits j := by
  rcases unify?_cases joined with rfl | rfl | widens | widens
  · rw [unify?_comm] at joined
    exact ⟨.refl _, (unify?_eq_right_iff _ _).mp joined⟩
  · exact ⟨(unify?_eq_right_iff _ _).mp joined, .refl _⟩
  · exact widens.fits
  · exact widens.fits.symm

/-- Where the operands fit, what widens them fits, except that `uint16` and a small signed
integer fit into `float32` while their join does not. -/
theorem Widens.least (widens : Widens a b j) (left : a.Fits c) (right : b.Fits c) :
    j.Fits c ∨ (c = .float32 ∧ b = .uint .w16) := by
  cases widens with
  | mixed signed unsigned =>
    cases c with
    | int width =>
      left
      revert left right
      cases signed <;> cases unsigned <;> cases width <;> decide
    | float32 =>
      revert left right
      cases signed <;> cases unsigned <;> decide
    | float64 =>
      left
      cases signed <;> cases unsigned <;> decide
    | uint width =>
      -- A signed integer has values below zero.
      exact absurd left.2.1 (by cases signed <;> simp [extent, Width.bits])
    | bool => exact absurd left.2.1 (by cases signed <;> decide)
    | _ => cases left.1
  | wide integer isInteger tooWide =>
    cases c with
    | float32 => exact absurd right tooWide
    | float64 => exact .inl (.refl _)
    | datetime | timedelta | object => cases left.1
    | _ => exact absurd left.2.2.2 (by simp [extent])

/-- A join fits into whatever both operands fit, with one exception. -/
theorem unify?_least (joined : unify? a b = some j) (left : a.Fits c) (right : b.Fits c) :
    j.Fits c ∨ (c = .float32 ∧ (a = .uint .w16 ∨ b = .uint .w16)) := by
  rcases unify?_cases joined with rfl | rfl | widens | widens
  · exact .inl left
  · exact .inl right
  · exact (widens.least left right).imp_right fun exception => ⟨exception.1, .inr exception.2⟩
  · exact (widens.least right left).imp_right fun exception => ⟨exception.1, .inl exception.2⟩

theorem unify?_of_family (same : a.family = b.family) : ∃ j, unify? a b = some j := by
  cases a <;> cases b <;> cases same
  case int.int | uint.uint =>
    simp only [unify?]
    split
    · exact ⟨_, rfl⟩
    · exact ⟨_, rfl⟩
  all_goals exact ⟨_, rfl⟩

/-- Only signed integers and `float64` arise from other types. -/
theorem unify?_origin (joined : unify? a b = some j) :
    j = a ∨ j = b ∨ j.isSigned ∨ j = .float64 := by
  have widened {x y : Primitive} (widens : Widens x y j) : j.isSigned ∨ j = .float64 := by
    cases widens with
    | mixed signed unsigned => cases signed <;> cases unsigned <;> decide
    | wide => exact .inr rfl
  rcases unify?_cases joined with same | same | widens | widens
  · exact .inl same
  · exact .inr (.inl same)
  · exact .inr (.inr (widened widens))
  · exact .inr (.inr (widened widens))

end Primitive

end RowTyping
