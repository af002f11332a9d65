import RowTyping.Proofs.UpperBound
import Mathlib.Algebra.Order.Group.Abs
import Mathlib.Algebra.Order.Ring.Int

namespace RowTyping

variable {p r : Primitive} {v : Int}

/-- Whether an integer has no more bits than the extent gives to integers of its sign. -/
def Extent.Admits (extent : Extent) (v : Int) : Prop :=
  v < 2 ^ extent.positive ∧ (0 ≤ v ∨ 0 < extent.negative ∧ -2 ^ extent.negative ≤ v)

namespace Extent.Admits

theorem mono {a b : Extent} (below : a ≤ b) (admits : a.Admits v) : b.Admits v := by
  obtain ⟨negative, positive, _⟩ := below
  have above : (2 : Int) ^ a.positive ≤ 2 ^ b.positive := pow_le_pow_right₀ (by decide) positive
  have below : (2 : Int) ^ a.negative ≤ 2 ^ b.negative := pow_le_pow_right₀ (by decide) negative
  obtain ⟨upper, natural | ⟨signed, lower⟩⟩ := admits
  · exact ⟨by omega, .inl natural⟩
  · exact ⟨by omega, .inr ⟨by omega, by omega⟩⟩

private theorem abs_le_pow {extent : Extent} {bits : Nat} (admits : extent.Admits v)
    (negative : extent.negative ≤ bits) (positive : extent.positive ≤ bits) : |v| ≤ 2 ^ bits := by
  have above : (2 : Int) ^ extent.positive ≤ 2 ^ bits := pow_le_pow_right₀ (by decide) positive
  have below : (2 : Int) ^ extent.negative ≤ 2 ^ bits := pow_le_pow_right₀ (by decide) negative
  have size : (0 : Int) < 2 ^ bits := pow_pos (by decide) bits
  apply abs_le.mpr
  obtain ⟨upper, natural | ⟨_, lower⟩⟩ := admits
  · exact ⟨by omega, by omega⟩
  · exact ⟨by omega, by omega⟩

end Extent.Admits

namespace Primitive

/-- The integers among the values of an integer type or of truth values. -/
def Holds : Primitive → Int → Prop
  | .bool, v => 0 ≤ v ∧ v ≤ 1
  | .int width, v => -2 ^ (width.bits - 1) ≤ v ∧ v < 2 ^ (width.bits - 1)
  | .uint width, v => 0 ≤ v ∧ v < 2 ^ width.bits
  | _, _ => False

theorem Holds.admits (held : p.Holds v) : p.extent.Admits v := by
  cases p with
  | bool =>
    have small : v ≤ 1 := held.2
    refine ⟨?_, .inl held.1⟩
    simp only [extent]
    omega
  | uint width => exact ⟨held.2, .inl held.1⟩
  | int width =>
    have signed : 0 < width.bits - 1 := by cases width <;> decide
    exact ⟨held.2, .inr ⟨signed, held.1⟩⟩
  | _ => exact held.elim

private theorem holds_of_admits (integer : p.isInteger) (admits : p.extent.Admits v) :
    p.Holds v := by
  cases p with
  | int width =>
    have size : (0 : Int) < 2 ^ (width.bits - 1) := pow_pos (by decide) _
    obtain ⟨upper, natural | ⟨_, lower⟩⟩ := admits
    · exact ⟨by omega, upper⟩
    · exact ⟨lower, upper⟩
  | uint width =>
    obtain ⟨upper, natural | ⟨signed, _⟩⟩ := admits
    · exact ⟨natural, upper⟩
    · exact absurd signed (Nat.lt_irrefl 0)
  | _ => cases integer

/-- Integers of up to 32 bits are far from the end of the integers that a `float64` holds. -/
theorem Holds.abs_le_of_narrow (held : p.Holds v) (signed : p ≠ .int .w64)
    (unsigned : p ≠ .uint .w64) : |v| ≤ 2 ^ 53 := by
  have bits : p.extent.negative ≤ 53 ∧ p.extent.positive ≤ 53 := by
    cases p with
    | bool => decide
    | int width | uint width =>
      cases width with
      | w64 => contradiction
      | _ => decide
    | _ => exact held.elim
  exact held.admits.abs_le_pow bits.1 bits.2

/-- What a type keeps of the values of another one. -/
structure KeepsValues (p r : Primitive) : Prop where
  integer : r.isInteger → ∀ v, p.Holds v → r.Holds v
  float32 : r = .float32 → ∀ v, p.Holds v → |v| ≤ 2 ^ 24
  float64 : r = .float64 → p ≠ .int .w64 → p ≠ .uint .w64 → ∀ v, p.Holds v → |v| ≤ 2 ^ 53
  bool : r = .bool → p = .bool
  float : p.isFloat → r.isFloat ∧
    ∃ bits wider, p.bits? = some bits ∧ r.bits? = some wider ∧ bits ≤ wider

theorem Fits.eq_bool (fits : p.Fits .bool) : p = .bool := by
  cases p with
  | bool => rfl
  | int width | uint width => cases width <;> exact absurd fits (by decide)
  | datetime | timedelta | object => cases fits.1
  | _ => exact absurd fits (by decide)

/-- A float fits only into a float that is no narrower. -/
theorem Fits.float (fits : p.Fits r) (float : p.isFloat) : r.isFloat ∧
    ∃ bits wider, p.bits? = some bits ∧ r.bits? = some wider ∧ bits ≤ wider := by
  have precise := fits.2.2.2
  cases p with
  | float32 =>
    cases r with
    | float32 => exact ⟨rfl, 32, 32, rfl, rfl, Nat.le_refl 32⟩
    | float64 => exact ⟨rfl, 32, 64, rfl, rfl, by decide⟩
    | datetime | timedelta | object => cases fits.1
    | _ => exact absurd precise (by simp [extent])
  | float64 =>
    cases r with
    | float64 => exact ⟨rfl, 64, 64, rfl, rfl, Nat.le_refl 64⟩
    | datetime | timedelta | object => cases fits.1
    | _ => exact absurd precise (by simp [extent])
  | _ => cases float

theorem Fits.keepsValues (fits : p.Fits r) : KeepsValues p r where
  integer integer _ held := holds_of_admits integer (held.admits.mono fits.2)
  float32 same v held := by
    subst same
    exact held.admits.abs_le_pow fits.2.1 fits.2.2.1
  float64 _ signed unsigned _ held := held.abs_le_of_narrow signed unsigned
  bool same := by
    subst same
    exact fits.eq_bool
  float := fits.float

private theorem isNumberLike_iff : p.isNumberLike ↔ p.family = .number := by
  cases p <;> simp [isNumberLike, isNumeric, isInteger, isFloat, isBool, family]

end Primitive

namespace Ty

open ScalarTyping

variable {a b ty joined : Ty}

def isNumber (ty : Ty) : Bool :=
  match ty.unmasked with
  | .primitive p => p.isNumberLike
  | _ => false

private theorem isNumber_iff : ty.isNumber ↔ ∃ p, ty.unmasked = .primitive p ∧ p.isNumberLike := by
  unfold isNumber
  cases ty.unmasked <;> simp

theorem unify_isNumber (left : a.isNumber) (right : b.isNumber) :
    ∃ joined, unify .numeric a b = .ok joined ∧ joined.isNumber := by
  obtain ⟨p, bareLeft, number⟩ := isNumber_iff.mp left
  obtain ⟨q, bareRight, number'⟩ := isNumber_iff.mp right
  have family : p.family = .number := Primitive.isNumberLike_iff.mp number
  have family' : q.family = .number := Primitive.isNumberLike_iff.mp number'
  obtain ⟨r, promoted⟩ := Primitive.unify?_of_family (family.trans family'.symm)
  have scalarJoin : numeric.unify a.unmasked b.unmasked = some (.primitive r) := by
    rw [bareLeft, bareRight]
    exact congrArg (Option.map Ty.primitive) promoted
  have first : a ≠ .null := by
    rintro rfl
    cases left
  have second : b ≠ .null := by
    rintro rfl
    cases right
  obtain ⟨joined, _, present, bare, masks⟩ := lift_join first scalarJoin
  refine ⟨joined, (unify_eq_ok_iff first second).mpr ⟨present, bare ▸ scalarJoin, masks⟩, ?_⟩
  have joinFamily := (Primitive.unify?_fits promoted).1.1.symm.trans family
  exact isNumber_iff.mpr ⟨r, bare, Primitive.isNumberLike_iff.mpr joinFamily⟩

/-- A chain of joins of numbers never fails, and each join on the way is a number. -/
private theorem unifyAll_go_isNumber {start : Ty} {rest : List Ty} (first : start.isNumber)
    (others : ∀ ty ∈ rest, ty.isNumber) :
    ∃ joins joined, unifyAll.go .numeric start rest = (joins ++ [joined], none) ∧
      joined.isNumber := by
  induction rest generalizing start with
  | nil => exact ⟨[], start, rfl, first⟩
  | cons next rest ih =>
    obtain ⟨middle, step, number⟩ := unify_isNumber first (others next (by simp))
    obtain ⟨joins, joined, ran, last⟩ := ih number fun ty member => others ty (by simp [member])
    refine ⟨start :: joins, joined, ?_, last⟩
    simp only [unifyAll.go, step, ran, List.cons_append]

theorem Below.fits (below : Below a b) (left : a.unmasked = .primitive p)
    (right : b.unmasked = .primitive r) : p.Fits r := by
  have present : a ≠ .null := by
    rintro rfl
    cases left
  have fits := ((below_iff present (below.ne_null present)).mp below).1
  rw [left] at fits
  obtain ⟨q, same, fits⟩ := fits.primitive
  cases right.symm.trans same
  exact fits

/-- Numbers of any kind, masked or not, have a join, and only integers of 64 bits that become
`float64` may lose digits on the way. -/
theorem unifyAll_keeps_values (types : List Ty) (nonempty : types ≠ [])
    (numbers : ∀ ty ∈ types, ty.isNumber) :
    ∃ joins joined r, unifyAll .numeric types = (joins ++ [joined], none) ∧
      joined.unmasked = .primitive r ∧ r.isNumberLike ∧
      ∀ ty ∈ types, ∃ p, ty.unmasked = .primitive p ∧ p.KeepsValues r := by
  cases types with
  | nil => contradiction
  | cons first rest =>
    have others : ∀ ty ∈ rest, ty.isNumber := fun ty member => numbers ty (by simp [member])
    obtain ⟨joins, joined, chain, number⟩ := unifyAll_go_isNumber (numbers first (by simp)) others
    have ran : unifyAll .numeric (first :: rest) = (joins ++ [joined], none) := chain
    obtain ⟨r, bare, isNumber⟩ := isNumber_iff.mp number
    refine ⟨joins, joined, r, ran, bare, isNumber, ?_⟩
    intro ty member
    obtain ⟨p, own, _⟩ := isNumber_iff.mp (numbers ty member)
    have fits : p.Fits r := (unifyAll_below ran ty member).fits own bare
    exact ⟨p, own, fits.keepsValues⟩

/-- A byte of each sign, a truth value and a float. -/
def smallNumbers : List Ty :=
  [.primitive (.uint .w8), .masked (.primitive (.int .w8)), .bool, .primitive .float32]

/-- The two bytes join to a masked `int16`, which keeps `float32` a `float32`. -/
theorem smallNumbers_keep_values :
    smallNumbers ≠ [] ∧ (∀ ty ∈ smallNumbers, ty.isNumber) ∧
      unifyAll .numeric smallNumbers =
        ([.primitive (.uint .w8), .masked (.primitive (.int .w16)),
          .masked (.primitive (.int .w16))] ++ [.masked (.primitive .float32)], none) ∧
      ∀ ty ∈ smallNumbers, ∃ p, ty.unmasked = .primitive p ∧ p.KeepsValues .float32 := by
  have nonempty : smallNumbers ≠ [] := List.cons_ne_nil _ _
  have numbers : ∀ ty ∈ smallNumbers, ty.isNumber := by decide
  have known : unifyAll .numeric smallNumbers =
      ([.primitive (.uint .w8), .masked (.primitive (.int .w16)),
        .masked (.primitive (.int .w16))] ++ [.masked (.primitive .float32)], none) := rfl
  obtain ⟨joins, joined, r, ran, bare, _, keeps⟩ :=
    unifyAll_keeps_values smallNumbers nonempty numbers
  have last : joined = .masked (.primitive .float32) := by
    have lists := (Prod.mk.inj (ran.symm.trans known)).1
    exact (List.append_singleton_inj.mp lists).2
  subst last
  cases bare
  exact ⟨nonempty, numbers, known, keeps⟩

end Ty

end RowTyping
