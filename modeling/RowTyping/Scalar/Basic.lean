import RowTyping.Operator
import RowTyping.Ty

namespace RowTyping

/-- A typing of unmasked values; `none` means that the operation is not defined. -/
structure ScalarTyping where
  binary : BinaryOp → Ty → Ty → Option Ty
  unary : UnaryOp → Ty → Option Ty
  unify : Ty → Ty → Option Ty
  /-- Whether a value of the first type may be converted to the second. -/
  canCast : Ty → Ty → Bool

end RowTyping
