import RowTyping.Proofs.Composition
import RowTyping.Proofs.Elaboration
import RowTyping.Proofs.Lifting

/-! Truth values in arithmetic. Next to a signed integer or a float a truth value counts as an
`int8`. Next to an unsigned integer it takes that operand's type, where a byte would widen it,
and it does not scale a duration, where a byte would. -/

namespace RowTyping

variable {op : BinaryOp}

namespace Primitive

variable {a b r : Primitive}

/-- A truth value taken for a byte. -/
def asByte : Primitive → Primitive
  | .bool => .int .w8
  | p => p

/-- Whether arithmetic treats a truth value among the operands otherwise than a byte. -/
def clashes (op : BinaryOp) : Primitive → Primitive → Bool
  | .bool, .uint _ | .uint _, .bool => op ≠ .trueDiv
  | .timedelta _, .bool => op = .mul || op = .trueDiv || op = .floorDiv
  | .bool, .timedelta _ => op = .mul
  | _, _ => false

private theorem asByte_of_ne (other : a ≠ .bool) : a.asByte = a := by
  cases a with
  | bool => contradiction
  | _ => rfl

private theorem clashes_of_ne (left : a ≠ .bool) (right : b ≠ .bool) : clashes op a b = false := by
  unfold clashes
  split
  · contradiction
  · contradiction
  · contradiction
  · contradiction
  · rfl

/-- Arithmetic on numbers looks at the promoted type alone. -/
theorem arithmetic?_swap (left : a.isTemporal = false) (right : b.isTemporal = false) :
    arithmetic? op a b = arithmetic? op b a := by
  unfold arithmetic?
  rw [left, right, promote?_comm]
  rfl

/-- Next to an unsigned integer a byte promotes to a signed integer or to a float. -/
theorem arithmetic?_byte_unsigned (op : BinaryOp) (width : Width) :
    arithmetic? op (.int .w8) (.uint width) = arithmetic? op .bool (.uint width) ↔
      op = .trueDiv := by
  by_cases division : op = .trueDiv
  · subst division
    cases width <;> exact iff_of_true rfl rfl
  · apply iff_of_false _ division
    cases width <;>
      simp [arithmetic?, division, promote?, promoteMixed, isTemporal, isNumberLike, isNumeric,
        isInteger, isBool, Width.double?, Width.bits]

/-- A truth value on the left counts as a byte exactly where it does not clash. -/
theorem arithmetic?_byte_left (other : b ≠ .bool) :
    arithmetic? op (.int .w8) b = arithmetic? op .bool b ↔ clashes op .bool b = false := by
  cases b with
  | bool => contradiction
  | int width => exact iff_of_true (by cases width <;> rfl) rfl
  | uint width => simpa [clashes] using arithmetic?_byte_unsigned op width
  | datetime unit => exact iff_of_true (by cases op <;> rfl) rfl
  | timedelta unit =>
    cases op with
    | mul => exact iff_of_false nofun nofun
    | _ => exact iff_of_true rfl rfl
  | float32 | float64 | object => exact iff_of_true rfl rfl

private theorem arithmetic?_byte_right (other : a ≠ .bool) :
    arithmetic? op a (.int .w8) = arithmetic? op a .bool ↔ clashes op a .bool = false := by
  cases a with
  | datetime unit => exact iff_of_true (by cases op <;> rfl) rfl
  | timedelta unit =>
    cases op with
    | mul | trueDiv | floorDiv => exact iff_of_false nofun nofun
    | _ => exact iff_of_true rfl rfl
  | _ =>
    rw [arithmetic?_swap rfl rfl, arithmetic?_swap (b := .bool) rfl rfl]
    exact arithmetic?_byte_left other

private theorem arithmetic?_object (unresolved : a = .object ∨ b = .object) :
    arithmetic? op a b = none := by
  rcases unresolved with rfl | rfl
  · cases b with
    | datetime unit | timedelta unit => cases op <;> rfl
    | _ => rfl
  · cases a with
    | datetime unit | timedelta unit => cases op <;> rfl
    | _ => rfl

private theorem binary?_of_arithmetic (arithmetic : op.category = .arithmetic) (a b : Primitive) :
    binary? op a b = arithmetic? op a b := by
  simp only [binary?, arithmetic, Bool.or_eq_true, decide_eq_true_eq]
  split
  next unresolved => exact (arithmetic?_object unresolved).symm
  next => rfl

/-- With at most one truth value among the operands, arithmetic takes it for a byte exactly where
the operands do not clash. -/
theorem binary?_asByte_iff (arithmetic : op.category = .arithmetic)
    (single : ¬(a = .bool ∧ b = .bool)) :
    binary? op a.asByte b.asByte = binary? op a b ↔ clashes op a b = false := by
  simp only [binary?_of_arithmetic arithmetic]
  by_cases left : a = .bool
  · subst left
    have other : b ≠ .bool := fun right => single ⟨rfl, right⟩
    rw [asByte_of_ne other]
    exact arithmetic?_byte_left other
  · rw [asByte_of_ne left]
    by_cases right : b = .bool
    · subst right
      exact arithmetic?_byte_right left
    · rw [asByte_of_ne right]
      exact iff_of_true rfl (clashes_of_ne left right)

theorem arithmetic?_ne_bool (typed : arithmetic? op a b = some r) : r ≠ .bool := by
  rintro rfl
  unfold arithmetic? at typed
  split at typed
  · unfold temporalArithmetic? at typed
    split at typed <;> simp at typed
  · obtain ⟨promoted, _, result⟩ := Option.map_eq_some_iff.mp typed
    split at result
    · cases result
    · split at result
      next => cases result
      next number =>
        subst result
        exact number rfl

end Primitive

namespace Ty

def ofPrimitive (masked : Bool) (p : Primitive) : Ty :=
  if masked then .masked (.primitive p) else .primitive p

/-- A truth value taken for a byte, under its mask if it has one. -/
def asByte : Ty → Ty
  | .primitive p => .primitive p.asByte
  | .masked (.primitive p) => .masked (.primitive p.asByte)
  | ty => ty

/-- Whether arithmetic treats a truth value among the operands, masked or not, otherwise than a
byte. -/
def clashes (op : BinaryOp) (a b : Ty) : Bool :=
  match a.unmasked, b.unmasked with
  | .primitive p, .primitive q => p.clashes op q
  | _, _ => false

private theorem exists_ofPrimitive {ty : Ty} (value : ty.unmasked.isPrimitive) :
    ∃ masked p, ty = ofPrimitive masked p := by
  cases ty with
  | primitive p => exact ⟨false, p, rfl⟩
  | masked covered =>
    cases covered with
    | primitive p => exact ⟨true, p, rfl⟩
    | ownedString => cases value
  | _ => cases value

@[simp] theorem unmasked_ofPrimitive (masked : Bool) (p : Primitive) :
    (ofPrimitive masked p).unmasked = .primitive p := by
  cases masked <;> rfl

@[simp] theorem isMasked_ofPrimitive (masked : Bool) (p : Primitive) :
    (ofPrimitive masked p).isMasked = masked := by
  cases masked <;> rfl

@[simp] theorem asByte_ofPrimitive (masked : Bool) (p : Primitive) :
    (ofPrimitive masked p).asByte = ofPrimitive masked p.asByte := by
  cases masked <;> rfl

@[simp] theorem clashes_ofPrimitive (masked other : Bool) (p q : Primitive) :
    clashes op (ofPrimitive masked p) (ofPrimitive other q) = p.clashes op q := by
  simp [clashes]

private theorem ofPrimitive_ne_null (masked : Bool) (p : Primitive) :
    ofPrimitive masked p ≠ .null := by
  cases masked <;> exact nofun

private theorem ofPrimitive_inj {masked : Bool} {p q : Primitive} :
    ofPrimitive masked p = ofPrimitive masked q ↔ p = q := by
  cases masked <;> simp [ofPrimitive]

@[simp] theorem isOperand_ofPrimitive (masked : Bool) (p : Primitive) :
    (ofPrimitive masked p).isOperand := by
  cases masked <;> rfl

end Ty

open Ty

def Expr.isArithmetic : Expr → Bool
  | .param _ => true
  | .binary op left right => op.category = .arithmetic && left.isArithmetic && right.isArithmetic
  | _ => false

variable {settings : Settings} {params : List Ty} {e left right : Expr}
variable {masked other : Bool} {p q : Primitive}

private theorem Expr.isArithmetic_binary :
    (Expr.binary op left right).isArithmetic ↔
      op.category = .arithmetic ∧ left.isArithmetic ∧ right.isArithmetic := by
  simp [isArithmetic, and_assoc]

private theorem resolve_ofPrimitive (op : BinaryOp) (masked other : Bool) (p q : Primitive) :
    resolve ⟨.numeric, settings⟩ (.binary op) [ofPrimitive masked p, ofPrimitive other q] =
      liftedSignatureOr
        (.noOverload op.symbol [(ofPrimitive masked p).name, (ofPrimitive other q).name])
        [ofPrimitive masked p, ofPrimitive other q] (masked || other)
        ((Primitive.binary? op p q).map .primitive) := by
  rw [resolve_binary (ofPrimitive_ne_null masked p) (ofPrimitive_ne_null other q)]
  simp [binaryValue?, ScalarTyping.numeric]

private theorem typeOf_ofPrimitive
    (leftType : typeOf ⟨.numeric, settings⟩ params left = .ok (ofPrimitive masked p))
    (rightType : typeOf ⟨.numeric, settings⟩ params right = .ok (ofPrimitive other q)) :
    typeOf ⟨.numeric, settings⟩ params (.binary op left right) =
      match Primitive.binary? op p q with
      | some r => .ok (ofPrimitive (masked || other) r)
      | none => .error
        (.noOverload op.symbol [(ofPrimitive masked p).name, (ofPrimitive other q).name]) := by
  rw [typeOf_binary, leftType, rightType]
  change (resolve _ _ _ >>= fun signature => .ok signature.result) = _
  rw [resolve_ofPrimitive]
  cases Primitive.binary? op p q with
  | none => rfl
  | some r =>
    simp only [Option.map, liftedSignatureOr, lift_primitive]
    rfl

private theorem Matches.of_ok {second : Except TypeError β}
    (same : Matches related (.ok answer) second) :
    ∃ answer', second = .ok answer' ∧ related answer answer' := by
  cases second with
  | error failure => exact same.elim
  | ok answer' => exact ⟨answer', rfl, same⟩

private theorem Matches.of_error {failure : TypeError} {second : Except TypeError β}
    (same : Matches related (.error failure) second) : ∃ failure', second = .error failure' := by
  cases second with
  | error failure' => exact ⟨failure', rfl⟩
  | ok answer => exact same.elim

theorem Matches.congr {first : Except TypeError α} {second : Except TypeError β}
    {related other : α → β → Prop}
    (alike : ∀ answer answer', first = .ok answer →
      (related answer answer' ↔ other answer answer')) :
    Matches related first second ↔ Matches other first second := by
  cases first with
  | error failure => cases second <;> rfl
  | ok answer =>
    cases second with
    | error failure => rfl
    | ok answer' => exact alike answer answer' rfl

private theorem typeOf_operands
    (typed : typeOf ⟨.numeric, settings⟩ params (.binary op left right) = .ok ty) :
    ∃ a b, typeOf ⟨.numeric, settings⟩ params left = .ok a ∧
      typeOf ⟨.numeric, settings⟩ params right = .ok b := by
  rw [typeOf_binary] at typed
  obtain ⟨a, leftType, typed⟩ := bind_eq_ok_iff.mp typed
  obtain ⟨b, rightType, _⟩ := bind_eq_ok_iff.mp typed
  exact ⟨a, b, leftType, rightType⟩

theorem typeOf_isPrimitive (arithmetic : e.isArithmetic)
    (values : ∀ ty ∈ params, ty.unmasked.isPrimitive)
    (typed : typeOf ⟨.numeric, settings⟩ params e = .ok ty) : ty.unmasked.isPrimitive := by
  induction e generalizing ty with
  | param index =>
    rw [typeOf_param] at typed
    split at typed
    next found =>
      cases typed
      exact values _ (List.mem_of_getElem? found)
    next => cases typed
  | binary op left right ihLeft ihRight =>
    obtain ⟨_, leftArithmetic, rightArithmetic⟩ := Expr.isArithmetic_binary.mp arithmetic
    obtain ⟨a, b, leftType, rightType⟩ := typeOf_operands typed
    obtain ⟨masked, p, rfl⟩ := exists_ofPrimitive (ihLeft leftArithmetic leftType)
    obtain ⟨other, q, rfl⟩ := exists_ofPrimitive (ihRight rightArithmetic rightType)
    rw [typeOf_ofPrimitive leftType rightType] at typed
    split at typed
    · cases typed
      simp [Ty.isPrimitive]
    · cases typed
  | _ => cases arithmetic

/-- Retyping truth values as bytes retypes the expression, if it is typed at all. -/
def CountsAlike (settings : Settings) (params : List Ty) (e : Expr) : Prop :=
  Matches (fun ty retyped => retyped = ty.asByte) (typeOf ⟨.numeric, settings⟩ params e)
    (typeOf ⟨.numeric, settings⟩ (params.map Ty.asByte) e)

private theorem countsAlike_param (settings : Settings) (params : List Ty) (index : Nat) :
    CountsAlike settings params (.param index) := by
  unfold CountsAlike
  rw [typeOf_param, typeOf_param, List.getElem?_map]
  cases params[index]? with
  | none => trivial
  | some type => rfl

/-- The operands of an operator are a truth value and something next to which it does not count as
a byte. -/
def Clash (settings : Settings) (params : List Ty) (op : BinaryOp) (left right : Expr) : Prop :=
  ∃ a b, left.TypesAs ⟨.numeric, settings⟩ params a ∧
    right.TypesAs ⟨.numeric, settings⟩ params b ∧ clashes op a b

def TwoTruthValues (settings : Settings) (params : List Ty) (left right : Expr) : Prop :=
  ∃ a b, left.TypesAs ⟨.numeric, settings⟩ params a ∧
    right.TypesAs ⟨.numeric, settings⟩ params b ∧ a.unmasked = .bool ∧ b.unmasked = .bool

private theorem clash_iff (leftType : typeOf ⟨.numeric, settings⟩ params left = .ok a)
    (rightType : typeOf ⟨.numeric, settings⟩ params right = .ok b) :
    Clash settings params op left right ↔ clashes op a b := by
  simp [Clash, Expr.typesAs_iff, leftType, rightType]

private theorem twoTruthValues_iff (leftType : typeOf ⟨.numeric, settings⟩ params left = .ok a)
    (rightType : typeOf ⟨.numeric, settings⟩ params right = .ok b) :
    TwoTruthValues settings params left right ↔ a.unmasked = .bool ∧ b.unmasked = .bool := by
  simp [TwoTruthValues, Expr.typesAs_iff, leftType, rightType]

private theorem not_clash_of_error {failure : TypeError}
    (untyped : typeOf ⟨.numeric, settings⟩ params left = .error failure ∨
      typeOf ⟨.numeric, settings⟩ params right = .error failure) :
    ¬Clash settings params op left right := by
  rintro ⟨a, b, leftTypes, rightTypes, _⟩
  rcases untyped with failed | failed
  · cases failed.symm.trans (Expr.typesAs_iff.mp leftTypes)
  · cases failed.symm.trans (Expr.typesAs_iff.mp rightTypes)

theorem matches_arithmetic_iff (arithmetic : op.category = .arithmetic)
    {failure failure' : TypeError}
    (single : ¬(p = .bool ∧ q = .bool)) :
    Matches (fun ty retyped => retyped = Ty.asByte ty)
      (match Primitive.binary? op p q with
        | some r => .ok (ofPrimitive masked r)
        | none => .error failure)
      (match Primitive.binary? op p.asByte q.asByte with
        | some r => .ok (ofPrimitive masked r)
        | none => .error failure') ↔ p.clashes op q = false := by
  rw [← Primitive.binary?_asByte_iff arithmetic single]
  cases result : Primitive.binary? op p q with
  | none =>
    cases Primitive.binary? op p.asByte q.asByte with
    | none => exact iff_of_true trivial rfl
    | some r' => exact iff_of_false id nofun
  | some r =>
    rw [Primitive.binary?_of_arithmetic arithmetic] at result
    have number : r.asByte = r := Primitive.asByte_of_ne (Primitive.arithmetic?_ne_bool result)
    cases Primitive.binary? op p.asByte q.asByte with
    | none => exact iff_of_false id nofun
    | some r' => simp [Matches, number, ofPrimitive_inj]

/-- An operator whose operands are retyped is itself retyped exactly where they do not clash. -/
theorem countsAlike_binary_iff (arithmetic : (Expr.binary op left right).isArithmetic)
    (values : ∀ ty ∈ params, ty.unmasked.isPrimitive)
    (single : ¬TwoTruthValues settings params left right)
    (leftAlike : CountsAlike settings params left)
    (rightAlike : CountsAlike settings params right) :
    CountsAlike settings params (.binary op left right) ↔ ¬Clash settings params op left right := by
  obtain ⟨operator, leftArithmetic, rightArithmetic⟩ := Expr.isArithmetic_binary.mp arithmetic
  unfold CountsAlike at leftAlike rightAlike ⊢
  cases leftType : typeOf ⟨.numeric, settings⟩ params left with
  | error failure =>
    rw [leftType] at leftAlike
    obtain ⟨failure', retypedLeft⟩ := leftAlike.of_error
    rw [typeOf_binary, typeOf_binary, leftType, retypedLeft]
    exact iff_of_true trivial (not_clash_of_error (.inl leftType))
  | ok a =>
    rw [leftType] at leftAlike
    obtain ⟨_, retypedLeft, rfl⟩ := leftAlike.of_ok
    cases rightType : typeOf ⟨.numeric, settings⟩ params right with
    | error failure =>
      rw [rightType] at rightAlike
      obtain ⟨failure', retypedRight⟩ := rightAlike.of_error
      rw [typeOf_binary, typeOf_binary, leftType, retypedLeft, rightType, retypedRight]
      exact iff_of_true trivial (not_clash_of_error (.inr rightType))
    | ok b =>
      rw [rightType] at rightAlike
      obtain ⟨_, retypedRight, rfl⟩ := rightAlike.of_ok
      rw [twoTruthValues_iff leftType rightType] at single
      rw [clash_iff leftType rightType, Bool.not_eq_true]
      obtain ⟨masked, p, rfl⟩ :=
        exists_ofPrimitive (typeOf_isPrimitive leftArithmetic values leftType)
      obtain ⟨other, q, rfl⟩ :=
        exists_ofPrimitive (typeOf_isPrimitive rightArithmetic values rightType)
      rw [asByte_ofPrimitive] at retypedLeft retypedRight
      rw [typeOf_ofPrimitive leftType rightType, typeOf_ofPrimitive retypedLeft retypedRight,
        clashes_ofPrimitive]
      apply matches_arithmetic_iff operator
      simpa [Ty.bool] using single

/-- The predicate holds of every operator of the expression, with its operands. -/
def Expr.EveryOperator (e : Expr) (holds : BinaryOp → Expr → Expr → Prop) : Prop :=
  ∀ op left right, .binary op left right ∈ e.postorder → holds op left right

private theorem Expr.everyOperator_param (index : Nat) (holds : BinaryOp → Expr → Expr → Prop) :
    (Expr.param index).EveryOperator holds := by
  intro op left right member
  simp [postorder] at member

private theorem Expr.everyOperator_binary {holds : BinaryOp → Expr → Expr → Prop} :
    (Expr.binary op left right).EveryOperator holds ↔
      left.EveryOperator holds ∧ right.EveryOperator holds ∧ holds op left right := by
  simp only [EveryOperator, postorder, List.mem_append, List.mem_singleton, binary.injEq]
  constructor
  · intro every
    refine ⟨?_, ?_, every op left right (.inr ⟨rfl, rfl, rfl⟩)⟩
    · intro op l r member
      exact every op l r (.inl (.inl member))
    · intro op l r member
      exact every op l r (.inl (.inr member))
  · rintro ⟨inLeft, inRight, root⟩ op l r ((member | member) | ⟨rfl, rfl, rfl⟩)
    · exact inLeft op l r member
    · exact inRight op l r member
    · exact root

/-- Typing has the same outcome, up to the failure met, whether the parameters that are truth values
are typed as such or as bytes. -/
def SameAsByte (settings : Settings) (params : List Ty) (e : Expr) : Prop :=
  ∀ session session', Matches (fun answer retyped => answer.2 = retyped.2)
    (check ⟨.numeric, settings⟩ params e session).1
    (check ⟨.numeric, settings⟩ (params.map Ty.asByte) e session').1

private theorem sameAsByte_iff :
    SameAsByte settings params e ↔
      Matches Eq (typeOf ⟨.numeric, settings⟩ params e)
        (typeOf ⟨.numeric, settings⟩ (params.map Ty.asByte) e) := by
  have types (session session' : Session) :
      Matches (fun answer retyped => answer.2 = retyped.2)
          (check ⟨.numeric, settings⟩ params e session).1
          (check ⟨.numeric, settings⟩ (params.map Ty.asByte) e session').1 ↔
        Matches Eq (typeOf ⟨.numeric, settings⟩ params e)
          (typeOf ⟨.numeric, settings⟩ (params.map Ty.asByte) e) := by
    rw [← check_type e session, ← check_type e session', Matches.map_iff]
  constructor
  · intro same
    exact (types _ _).mp (same { context := .initial } { context := .initial })
  · intro same session session'
    exact (types session session').mpr same

/-- No operator yields a truth value, so retyping its result changes nothing. -/
theorem asByte_of_typeOf (arithmetic : (Expr.binary op left right).isArithmetic)
    (values : ∀ ty ∈ params, ty.unmasked.isPrimitive)
    (typed : typeOf ⟨.numeric, settings⟩ params (.binary op left right) = .ok ty) :
    ty.asByte = ty := by
  obtain ⟨operator, leftArithmetic, rightArithmetic⟩ := Expr.isArithmetic_binary.mp arithmetic
  obtain ⟨a, b, leftType, rightType⟩ := typeOf_operands typed
  obtain ⟨masked, p, rfl⟩ := exists_ofPrimitive (typeOf_isPrimitive leftArithmetic values leftType)
  obtain ⟨other, q, rfl⟩ :=
    exists_ofPrimitive (typeOf_isPrimitive rightArithmetic values rightType)
  rw [typeOf_ofPrimitive leftType rightType, Primitive.binary?_of_arithmetic operator] at typed
  split at typed
  next r result =>
    cases typed
    rw [asByte_ofPrimitive, Primitive.asByte_of_ne (Primitive.arithmetic?_ne_bool result)]
  next => cases typed

private theorem sameAsByte_binary_iff (arithmetic : (Expr.binary op left right).isArithmetic)
    (values : ∀ ty ∈ params, ty.unmasked.isPrimitive) :
    SameAsByte settings params (.binary op left right) ↔
      CountsAlike settings params (.binary op left right) := by
  rw [sameAsByte_iff, CountsAlike]
  apply Matches.congr
  intro ty retyped typed
  rw [asByte_of_typeOf arithmetic values typed]
  exact eq_comm

/-- An expression all of whose operators keep their outcome is retyped. -/
theorem countsAlike_of_everyOperator (arithmetic : e.isArithmetic)
    (values : ∀ ty ∈ params, ty.unmasked.isPrimitive)
    (every : e.EveryOperator fun op left right =>
      SameAsByte settings params (.binary op left right)) :
    CountsAlike settings params e := by
  cases e with
  | param index => exact countsAlike_param settings params index
  | binary op left right =>
    obtain ⟨_, _, root⟩ := Expr.everyOperator_binary.mp every
    exact (sameAsByte_binary_iff arithmetic values).mp root
  | _ => cases arithmetic

theorem everyOperator_sameAsByte_iff (arithmetic : e.isArithmetic)
    (values : ∀ ty ∈ params, ty.unmasked.isPrimitive)
    (single : e.EveryOperator fun _ left right => ¬TwoTruthValues settings params left right) :
    (e.EveryOperator fun op left right => SameAsByte settings params (.binary op left right)) ↔
      e.EveryOperator fun op left right => ¬Clash settings params op left right := by
  induction e with
  | param index =>
    exact iff_of_true (Expr.everyOperator_param index _) (Expr.everyOperator_param index _)
  | binary op left right ihLeft ihRight =>
    obtain ⟨_, leftArithmetic, rightArithmetic⟩ := Expr.isArithmetic_binary.mp arithmetic
    obtain ⟨leftSingle, rightSingle, rootSingle⟩ := Expr.everyOperator_binary.mp single
    -- Once both operands keep their outcomes, the root decides by its own clash.
    have root (leftSame : left.EveryOperator fun op left right =>
          SameAsByte settings params (.binary op left right))
        (rightSame : right.EveryOperator fun op left right =>
          SameAsByte settings params (.binary op left right)) :
        SameAsByte settings params (.binary op left right) ↔
          ¬Clash settings params op left right :=
      (sameAsByte_binary_iff arithmetic values).trans
        (countsAlike_binary_iff arithmetic values rootSingle
          (countsAlike_of_everyOperator leftArithmetic values leftSame)
          (countsAlike_of_everyOperator rightArithmetic values rightSame))
    rw [Expr.everyOperator_binary, Expr.everyOperator_binary, ← ihLeft leftArithmetic leftSingle,
      ← ihRight rightArithmetic rightSingle]
    constructor
    · rintro ⟨leftSame, rightSame, same⟩
      exact ⟨leftSame, rightSame, (root leftSame rightSame).mp same⟩
    · rintro ⟨leftSame, rightSame, free⟩
      exact ⟨leftSame, rightSame, (root leftSame rightSame).mpr free⟩
  | _ => cases arithmetic

/-- Arithmetic in which no operator combines two truth values takes them for bytes, at every
operator, exactly when none of its operators clashes. -/
theorem check_asByte_iff (settings : Settings) (params : List Ty) (op : BinaryOp)
    (left right : Expr) (arithmetic : (Expr.binary op left right).isArithmetic)
    (values : ∀ ty ∈ params, ty.unmasked.isPrimitive)
    (single : (Expr.binary op left right).EveryOperator fun _ left right =>
      ¬TwoTruthValues settings params left right) :
    (((Expr.binary op left right).EveryOperator fun op left right =>
        ¬Clash settings params op left right) →
      SameAsByte settings params (.binary op left right)) ∧
    (((Expr.binary op left right).EveryOperator fun op left right =>
        SameAsByte settings params (.binary op left right)) ↔
      (Expr.binary op left right).EveryOperator fun op left right =>
        ¬Clash settings params op left right) := by
  have every := everyOperator_sameAsByte_iff arithmetic values single
  refine ⟨?_, every⟩
  intro free
  obtain ⟨_, _, root⟩ := Expr.everyOperator_binary.mp (every.mpr free)
  exact root

/-- A flag added to a short integer, and the sum scaled by a masked float. -/
def flagScaled : Expr := .binary .mul (.binary .add (.param 0) (.param 1)) (.param 2)

def flagScaledParams : List Ty :=
  [.bool, .primitive (.int .w16), .masked (.primitive .float32)]

theorem flagScaled_asByte :
    flagScaled.isArithmetic = true ∧ (∀ ty ∈ flagScaledParams, ty.unmasked.isPrimitive) ∧
      (flagScaled.EveryOperator fun _ left right =>
        ¬TwoTruthValues {} flagScaledParams left right) ∧
      (flagScaled.EveryOperator fun op left right => ¬Clash {} flagScaledParams op left right) ∧
      SameAsByte {} flagScaledParams flagScaled ∧
      (check ⟨.numeric, {}⟩ flagScaledParams flagScaled { context := .initial }).1 =
        .ok (4, .masked (.primitive .float32)) := by
  have arithmetic : flagScaled.isArithmetic = true := rfl
  have values : ∀ ty ∈ flagScaledParams, ty.unmasked.isPrimitive := by decide
  have single : flagScaled.EveryOperator fun _ left right =>
      ¬TwoTruthValues {} flagScaledParams left right := by
    simp only [flagScaled, Expr.everyOperator_binary, Expr.everyOperator_param, true_and]
    rw [twoTruthValues_iff rfl rfl, twoTruthValues_iff rfl rfl]
    decide
  have free : flagScaled.EveryOperator fun op left right =>
      ¬Clash {} flagScaledParams op left right := by
    simp only [flagScaled, Expr.everyOperator_binary, Expr.everyOperator_param, true_and]
    rw [clash_iff rfl rfl, clash_iff rfl rfl]
    decide
  exact ⟨arithmetic, values, single, free,
    (check_asByte_iff {} flagScaledParams _ _ _ arithmetic values single).1 free, by decide +kernel⟩

def flagPlusByte : Expr := .binary .add (.param 0) (.param 1)

def flagPlusByteParams : List Ty := [.bool, .primitive (.uint .w8)]

/-- The sum is an unsigned byte, where a signed byte in place of the flag would make it an
`int16`. -/
theorem flagPlusByte_differs :
    flagPlusByte.isArithmetic = true ∧ (∀ ty ∈ flagPlusByteParams, ty.unmasked.isPrimitive) ∧
      (flagPlusByte.EveryOperator fun _ left right =>
        ¬TwoTruthValues {} flagPlusByteParams left right) ∧
      (check ⟨.numeric, {}⟩ flagPlusByteParams flagPlusByte { context := .initial }).1 =
        .ok (2, .primitive (.uint .w8)) ∧
      (check ⟨.numeric, {}⟩ (flagPlusByteParams.map Ty.asByte) flagPlusByte
        { context := .initial }).1 = .ok (2, .primitive (.int .w16)) ∧
      ¬SameAsByte {} flagPlusByteParams flagPlusByte := by
  have single : flagPlusByte.EveryOperator fun _ left right =>
      ¬TwoTruthValues {} flagPlusByteParams left right := by
    simp only [flagPlusByte, Expr.everyOperator_binary, Expr.everyOperator_param, true_and]
    rw [twoTruthValues_iff rfl rfl]
    decide
  refine ⟨rfl, by decide, single, by decide +kernel, by decide +kernel, ?_⟩
  rw [sameAsByte_iff]
  exact nofun

end RowTyping
