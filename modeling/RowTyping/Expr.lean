import RowTyping.Operator
import RowTyping.Settings.Basic
import RowTyping.Ty

namespace RowTyping

/-- A constant of the source; its type does not depend on its value. -/
inductive Literal where
  | int (value : Int)
  | float (value : Float)
  | bool (value : Bool)
  | string (value : String)

def Literal.type (settings : Settings) : Literal → Ty
  | .int _ => .primitive settings.literalInt
  | .float _ => .primitive settings.literalFloat
  | .bool _ => .bool
  | .string _ => .stringLiteral

inductive Expr where
  | literal (value : Literal)
  /-- A parameter of the function, by position. -/
  | param (index : Nat)
  | na
  /-- A value masked with a validity flag. -/
  | masked (value valid : Expr)
  | binary (op : BinaryOp) (left right : Expr)
  | unary (op : UnaryOp) (operand : Expr)
  | isNull (left right : Expr)
  | len (operand : Expr)
  | attr (base : Expr) (name : String)
  | call (receiver : Expr) (method : String) (args : List Expr)
  | ifElse (cond thenBranch elseBranch : Expr)

end RowTyping
