import RowTyping.Scalar.Basic

/-! Numeric promotion with temporal arithmetic, the standard typing of unmasked values.
Numbers promote to the least type of a fixed ladder, truth values to any number, and
temporal operands of different units to the finer unit. -/

namespace RowTyping

namespace Primitive

/-- Promotion of two integers. A signed and an unsigned integer meet in the least signed
type above both, or in `float64` when the unsigned one already has 64 bits. -/
def promoteMixed (signed unsigned : Width) : Primitive :=
  if unsigned.bits < signed.bits then .int signed
  else
    match unsigned.double? with
    | some width => .int width
    | none => .float64

/-- Promotion of a float and an integer; only integers of at most 16 bits keep `float32`. -/
def promoteFloat (float integer : Primitive) : Primitive :=
  match float, integer.bits? with
  | .float32, some bits => if bits ≤ 16 then .float32 else .float64
  | _, _ => .float64

/-- The common type of numbers and truth values; other types have none here. -/
def promote? : Primitive → Primitive → Option Primitive
  | .bool, b => if b.isNumberLike then some b else none
  | a, .bool => if a.isNumberLike then some a else none
  | .int a, .int b => some (.int (a.wider b))
  | .uint a, .uint b => some (.uint (a.wider b))
  | .int a, .uint b => some (promoteMixed a b)
  | .uint a, .int b => some (promoteMixed b a)
  | .float32, .float32 => some .float32
  | .float32, .float64 | .float64, .float32 | .float64, .float64 => some .float64
  | a, b =>
    if a.isFloat && b.isInteger then some (promoteFloat a b)
    else if a.isInteger && b.isFloat then some (promoteFloat b a)
    else none

def temporalArithmetic? : BinaryOp → Primitive → Primitive → Option Primitive
  | .sub, .datetime u, .datetime v => some (.timedelta (u.finer v))
  | .add, .datetime u, .timedelta v | .sub, .datetime u, .timedelta v =>
    some (.datetime (u.finer v))
  | .add, .timedelta u, .datetime v => some (.datetime (u.finer v))
  | .add, .timedelta u, .timedelta v | .sub, .timedelta u, .timedelta v
  | .mod, .timedelta u, .timedelta v => some (.timedelta (u.finer v))
  | .trueDiv, .timedelta _, .timedelta _ => some .float64
  | .floorDiv, .timedelta _, .timedelta _ => some (.int .w64)
  | .mul, .timedelta u, b | .trueDiv, .timedelta u, b =>
    if b.isNumeric then some (.timedelta u) else none
  | .floorDiv, .timedelta u, b => if b.isInteger then some (.timedelta u) else none
  | .mul, a, .timedelta u => if a.isNumeric then some (.timedelta u) else none
  | _, _, _ => none

/-- Arithmetic on numbers and truth values: true division yields a float, and two truth
values yield `int64`. -/
def arithmetic? (op : BinaryOp) (a b : Primitive) : Option Primitive :=
  if a.isTemporal || b.isTemporal then temporalArithmetic? op a b
  else
    (promote? a b).map fun promoted =>
      if op = .trueDiv && !promoted.isFloat then .float64
      else if promoted.isBool then .int .w64
      else promoted

def comparison? : Primitive → Primitive → Option Primitive
  | .datetime _, .datetime _ | .timedelta _, .timedelta _ => some .bool
  | a, b => (promote? a b).map fun _ => .bool

/-- Bitwise operators take no floats. -/
def bitwise? (a b : Primitive) : Option Primitive :=
  if a.isFloat || b.isFloat then none else promote? a b

def binary? (op : BinaryOp) (a b : Primitive) : Option Primitive :=
  if a = .object || b = .object then none
  else
    match op.category with
    | .arithmetic => arithmetic? op a b
    | .bitwise => bitwise? a b
    | .comparison => comparison? a b

def unary? : UnaryOp → Primitive → Option Primitive
  | .pos, .bool | .neg, .bool => some (.int .w64)
  | .pos, .timedelta u | .neg, .timedelta u => some (.timedelta u)
  | .pos, p | .neg, p => if p.isNumeric then some p else none
  | .not, p => if p.isNumberLike then some .bool else none
  | .invert, p => if p.isInteger || p.isBool then some p else none
  | .math function, p =>
    if !p.isNumberLike then none
    else if function.rounds then some (.int .w64)
    else if p = .float32 then some .float32
    else some .float64

def unify? : Primitive → Primitive → Option Primitive
  | .datetime u, .datetime v => some (.datetime (u.finer v))
  | .timedelta u, .timedelta v => some (.timedelta (u.finer v))
  | a, b => if a = b then some a else promote? a b

/-- Numbers and truth values convert among each other, and temporal values within a kind. -/
def canCast : Primitive → Primitive → Bool
  | .datetime _, .datetime _ | .timedelta _, .timedelta _ => true
  | a, b => a = b || (a.isNumberLike && b.isNumberLike)

end Primitive

namespace ScalarTyping

/-- The typing by numeric promotion. Texts compare with each other and unify to an owned
string; every type unifies with itself. -/
def numeric : ScalarTyping where
  binary op
    | .primitive a, .primitive b => (Primitive.binary? op a b).map .primitive
    | a, b => if a.isString && b.isString && op.category = .comparison then some .bool else none
  unary op
    | .primitive p => (Primitive.unary? op p).map .primitive
    | _ => none
  unify
    | .primitive a, .primitive b => (Primitive.unify? a b).map .primitive
    | a, b =>
      if a = b then some a
      else if a.isString && b.isString then some .ownedString
      else none
  canCast
    | .primitive a, .primitive b => Primitive.canCast a b
    | a, .ownedString => a.isString
    | a, b => a = b

end ScalarTyping

end RowTyping
