import RowTyping.Scalar.Basic

namespace RowTyping

/-- One exception: the answer on exactly these arguments. Operators are given by symbol. -/
inductive ScalarRow where
  | binary (symbol : String) (left right : Ty) (result : Option Ty)
  | unary (symbol : String) (operand : Ty) (result : Option Ty)
  | unify (left right : Ty) (result : Option Ty)
  | cast (source target : Ty) (allowed : Bool)

namespace ScalarRow

def binaryAnswer? (op : BinaryOp) (a b : Ty) : ScalarRow → Option (Option Ty)
  | .binary symbol left right result =>
    if symbol = op.symbol ∧ left = a ∧ right = b then some result else none
  | _ => none

def unaryAnswer? (op : UnaryOp) (a : Ty) : ScalarRow → Option (Option Ty)
  | .unary symbol operand result =>
    if symbol = op.symbol ∧ operand = a then some result else none
  | _ => none

def unifyAnswer? (a b : Ty) : ScalarRow → Option (Option Ty)
  | .unify left right result => if left = a ∧ right = b then some result else none
  | _ => none

def castAnswer? (a b : Ty) : ScalarRow → Option Bool
  | .cast source target allowed => if source = a ∧ target = b then some allowed else none
  | _ => none

end ScalarRow

/-- The typing that answers by the first matching row, and by `base` where no row matches. -/
def ScalarTyping.overridden (base : ScalarTyping) (rows : List ScalarRow) : ScalarTyping where
  binary op a b := (rows.findSome? (·.binaryAnswer? op a b)).getD (base.binary op a b)
  unary op a := (rows.findSome? (·.unaryAnswer? op a)).getD (base.unary op a)
  unify a b := (rows.findSome? (·.unifyAnswer? a b)).getD (base.unify a b)
  canCast a b := (rows.findSome? (·.castAnswer? a b)).getD (base.canCast a b)

end RowTyping
