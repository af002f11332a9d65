import RowTyping.Proofs.Promotion
import RowTyping.Rule.Resolve

namespace RowTyping

namespace Ty

/-- Whether a value of the type may be missing. -/
def isNullable (ty : Ty) : Bool := ty.isMasked || ty.isNull

theorem isNullable_iff : isNullable ty ↔ ty.isMasked ∨ ty = .null := by
  cases ty <;> simp [isNullable, isNull]

theorem isNullable_of_ne_null (present : ty ≠ .null) : isNullable ty = ty.isMasked := by
  cases ty <;> simp_all [isNullable, isNull]

theorem eq_masked_of_isMasked (masked : isMasked ty) : ∃ value, ty = .masked value := by
  cases ty with
  | masked value => exact ⟨value, rfl⟩
  | _ => cases masked

@[simp] theorem isMasked_unmasked (ty : Ty) : ty.unmasked.isMasked = false := by
  cases ty with
  | masked value => cases value <;> rfl
  | _ => rfl

@[simp] theorem unmasked_unmasked (ty : Ty) : ty.unmasked.unmasked = ty.unmasked := by
  cases ty with
  | masked value => cases value <;> rfl
  | _ => rfl

@[simp] theorem unmasked_eq_null_iff : Ty.unmasked ty = .null ↔ ty = .null := by
  cases ty with
  | masked value => cases value <;> simp [unmasked, MaskedValue.type]
  | _ => simp [unmasked]

theorem unmasked_of_not_isMasked (bare : isMasked ty = false) : ty.unmasked = ty := by
  cases ty with
  | masked value => cases bare
  | _ => rfl

/-- Whether binary operators take the type: a plain value, or one under a mask. -/
def isOperand (ty : Ty) : Bool := ty.isMasked || ty.kind.isValue

@[simp] theorem isOperand_unmasked (ty : Ty) : ty.unmasked.isOperand = ty.isOperand := by
  cases ty with
  | masked value => cases value <;> rfl
  | _ => rfl

/-- The mask over a type where one is asked for. -/
def lift (masked : Bool) (ty : Ty) : Except TypeError Ty := if masked then ty.mask else .ok ty

@[simp] theorem lift_value (masked : Bool) (value : MaskedValue) :
    value.type.lift masked = .ok (if masked then .masked value else value.type) := by
  cases masked <;> cases value <;> rfl

@[simp] theorem lift_primitive (masked : Bool) (p : Primitive) :
    (primitive p).lift masked =
      .ok (if masked then .masked (.primitive p) else .primitive p) :=
  lift_value masked (.primitive p)

end Ty

open Rule

def liftedSignatureOr (failure : TypeError) (operands : List Ty) (masked : Bool) :
    Option Ty → Except TypeError Signature
  | some value => (value.lift masked).map fun result => ⟨result, operands, none⟩
  | none => .error failure

private theorem signatureOr_eq (failure : TypeError) (operands : List Ty) (value : Option Ty) :
    signatureOr failure operands value = liftedSignatureOr failure operands false value := by
  cases value <;> rfl

private theorem maskedSignatureOr_eq (failure : TypeError) (operands : List Ty)
    (value : Option Ty) :
    maskedSignatureOr failure operands value = liftedSignatureOr failure operands true value := by
  cases value <;> rfl

/-- The bare result of a binary operator: its operands are values, masked or not. -/
def binaryValue? (scalar : ScalarTyping) (op : BinaryOp) (a b : Ty) : Option Ty :=
  if a.isOperand && b.isOperand then scalar.binary op a.unmasked b.unmasked else none

/-- The bare result of a unary operator: its operand is a primitive or masked. -/
def unaryValue? (scalar : ScalarTyping) (op : UnaryOp) (a : Ty) : Option Ty :=
  if a.isMasked || a.isPrimitive then scalar.unary op a.unmasked else none

def lengthValue? (a : Ty) : Option Ty :=
  if a.unmasked.isString then some (.primitive Foreign.Routine.length.result.primitive) else none

theorem resolve_binary (left : a ≠ .null) (right : b ≠ .null) :
    resolve env (.binary op) [a, b] =
      liftedSignatureOr (.noOverload op.symbol [a.name, b.name]) [a, b] (a.isMasked || b.isMasked)
        (binaryValue? env.scalar op a b) := by
  unfold binaryValue?
  cases a <;> cases b <;>
    simp_all [resolve, Pattern.ofOperands?, Ty.kind, find?, apply, Ty.unmasked, Ty.isMasked,
      Ty.isOperand, Kind.isValue, Operation.decline, Operation.name, signatureOr_eq,
      maskedSignatureOr_eq, liftedSignatureOr]

theorem resolve_binary_null_left (env : TypingEnv) (op : BinaryOp) (b : Ty) :
    resolve env (.binary op) [.null, b] =
      if b.isMasked then .ok ⟨b, [.null, b], none⟩
      else .error (.noOverload op.symbol ["NA", b.name]) := by
  cases b <;> rfl

theorem resolve_binary_null_right (env : TypingEnv) (op : BinaryOp) (a : Ty) :
    resolve env (.binary op) [a, .null] =
      if a.isMasked then .ok ⟨a, [a, .null], none⟩
      else .error (.noOverload op.symbol [a.name, "NA"]) := by
  cases a <;> rfl

/-- A binary operator takes `NA` only opposite a masked operand. -/
theorem resolve_binary_null (missing : a = .null ∨ b = .null)
    (resolved : resolve env (.binary op) [a, b] = .ok signature) : signature.result.isMasked := by
  rcases missing with rfl | rfl
  · cases b <;> cases resolved
    rfl
  · cases a <;> cases resolved
    rfl

theorem resolve_unary (env : TypingEnv) (op : UnaryOp) (a : Ty) :
    resolve env (.unary op) [a] =
      liftedSignatureOr (.noOverload op.symbol [a.name]) [a] a.isMasked
        (unaryValue? env.scalar op a) := by
  unfold unaryValue?
  cases a <;>
    simp [resolve, Pattern.ofOperands?, Ty.kind, find?, apply, Ty.unmasked, Ty.isMasked,
      Ty.isPrimitive, Operation.decline, Operation.name, signatureOr_eq, maskedSignatureOr_eq,
      liftedSignatureOr]

/-- Under a mask the settings have to allow the length. -/
theorem resolve_len (env : TypingEnv) (a : Ty) :
    resolve env .len [a] =
      if a = .maskedString && !env.settings.stringOps then .error (.stringsDisabled "len")
      else liftedSignatureOr (.noOverload "len" [a.name]) [a] a.isMasked (lengthValue? a) := by
  cases a with
  | masked value =>
    cases value with
    | primitive p => rfl
    | ownedString =>
      simp only [resolve, Pattern.ofOperands?, Option.bind_some, Ty.kind, find?, apply,
        Operation.name, TypingEnv.requireStrings]
      cases env.settings.stringOps <;> rfl
  | _ => rfl

/-- A mask is made over the kinds of values that it may cover, with a primitive flag. -/
theorem resolve_construct (resolved : resolve env .construct [a, b] = .ok signature) :
    constructSignature env .construct a b = .ok signature := by
  cases b with
  | primitive p =>
    cases a with
    | primitive | stringView | ownedString => exact resolved
    | _ => cases resolved
  | _ => cases a <;> cases resolved

theorem resolve_truth (env : TypingEnv) (a : Ty) :
    resolve env .truth [a] =
      if a.unmasked = .bool then .ok ⟨.bool, [a], none⟩
      else .error (.noOverload "bool" [a.name]) := by
  cases a with
  | primitive p => cases p <;> rfl
  | masked value =>
    cases value with
    | primitive p => cases p <;> rfl
    | ownedString => rfl
  | _ => rfl

/-! Masks do not matter to the bare results, which are primitives. -/

@[simp] theorem binaryValue?_unmasked (scalar : ScalarTyping) (op : BinaryOp) (a b : Ty) :
    binaryValue? scalar op a.unmasked b.unmasked = binaryValue? scalar op a b := by
  simp [binaryValue?]

/-- Promotion leaves unary operators on texts undefined, masked or not. -/
@[simp] theorem unaryValue?_unmasked (op : UnaryOp) (a : Ty) :
    unaryValue? .numeric op a.unmasked = unaryValue? .numeric op a := by
  cases a with
  | masked value => cases value <;> rfl
  | _ => rfl

@[simp] theorem lengthValue?_unmasked (a : Ty) : lengthValue? a.unmasked = lengthValue? a := by
  simp [lengthValue?]

theorem binaryValue?_primitive (found : binaryValue? .numeric op a b = some ty) :
    ∃ p, ty = .primitive p := by
  unfold binaryValue? at found
  split at found
  · exact ScalarTyping.numeric_binary_primitive found
  · cases found

theorem unaryValue?_primitive (found : unaryValue? .numeric op a = some ty) :
    ∃ p, ty = .primitive p := by
  unfold unaryValue? at found
  split at found
  · exact ScalarTyping.numeric_unary_primitive found
  · cases found

theorem lengthValue?_primitive (found : lengthValue? a = some ty) : ∃ p, ty = .primitive p := by
  unfold lengthValue? at found
  split at found
  · cases found
    exact ⟨_, rfl⟩
  · cases found

end RowTyping
