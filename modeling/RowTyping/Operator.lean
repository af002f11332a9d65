import RowTyping.Text.Blank
import RowTyping.TypeError

namespace RowTyping

inductive BinaryOp where
  | add | sub | mul | trueDiv | floorDiv | mod | pow
  | bitAnd | bitOr | bitXor
  | eq | ne | lt | le | gt | ge
deriving DecidableEq, Repr

namespace BinaryOp

/-- Families of binary operators, which promote their operands differently. -/
inductive Category where
  | arithmetic
  | bitwise
  | comparison
deriving DecidableEq, Repr

def all : List BinaryOp :=
  [.add, .sub, .mul, .trueDiv, .floorDiv, .mod, .pow, .bitAnd, .bitOr, .bitXor,
    .eq, .ne, .lt, .le, .gt, .ge]

def symbol : BinaryOp → String
  | .add => "+"
  | .sub => "-"
  | .mul => "*"
  | .trueDiv => "/"
  | .floorDiv => "//"
  | .mod => "%"
  | .pow => "**"
  | .bitAnd => "&"
  | .bitOr => "|"
  | .bitXor => "^"
  | .eq => "=="
  | .ne => "!="
  | .lt => "<"
  | .le => "<="
  | .gt => ">"
  | .ge => ">="

def category : BinaryOp → Category
  | .add | .sub | .mul | .trueDiv | .floorDiv | .mod | .pow => .arithmetic
  | .bitAnd | .bitOr | .bitXor => .bitwise
  | .eq | .ne | .lt | .le | .gt | .ge => .comparison

/-- The operator with the given symbol; blanks are not dropped. -/
def ofSymbol (text : String) : Except TypeError BinaryOp :=
  match all.find? (·.symbol = text) with
  | some op => .ok op
  | none => .error (.unreadable text .binaryOperator)

end BinaryOp

inductive MathFn where
  | acos | acosh | asin | asinh | atan | atanh | ceil | cos | cosh | degrees | erf | erfc | exp
  | expm1 | fabs | floor | gamma | lgamma | log | log10 | log1p | log2 | radians | sin | sinh | sqrt
  | tan | tanh
deriving DecidableEq, Repr

namespace MathFn

def all : List MathFn :=
  [.acos, .acosh, .asin, .asinh, .atan, .atanh, .ceil, .cos, .cosh, .degrees, .erf, .erfc, .exp,
    .expm1, .fabs, .floor, .gamma, .lgamma, .log, .log10, .log1p, .log2, .radians, .sin, .sinh,
    .sqrt, .tan, .tanh]

def name : MathFn → String
  | .acos => "acos"
  | .acosh => "acosh"
  | .asin => "asin"
  | .asinh => "asinh"
  | .atan => "atan"
  | .atanh => "atanh"
  | .ceil => "ceil"
  | .cos => "cos"
  | .cosh => "cosh"
  | .degrees => "degrees"
  | .erf => "erf"
  | .erfc => "erfc"
  | .exp => "exp"
  | .expm1 => "expm1"
  | .fabs => "fabs"
  | .floor => "floor"
  | .gamma => "gamma"
  | .lgamma => "lgamma"
  | .log => "log"
  | .log10 => "log10"
  | .log1p => "log1p"
  | .log2 => "log2"
  | .radians => "radians"
  | .sin => "sin"
  | .sinh => "sinh"
  | .sqrt => "sqrt"
  | .tan => "tan"
  | .tanh => "tanh"

def rounds : MathFn → Bool
  | .ceil | .floor => true
  | _ => false

end MathFn

inductive UnaryOp where
  | pos
  | neg
  | not
  | invert
  | math (function : MathFn)
deriving DecidableEq, Repr

namespace UnaryOp

def all : List UnaryOp := [.pos, .neg, .not, .invert] ++ MathFn.all.map .math

def symbol : UnaryOp → String
  | .pos => "+"
  | .neg => "-"
  | .not => "not"
  | .invert => "~"
  | .math function => function.name

/-- The operator with the given symbol, which one leading `math.` may qualify. -/
def ofSymbol (text : String) : Except TypeError UnaryOp :=
  let bare := (("math.".toList.isPrefixOf? text.toList).map String.ofList).getD text
  match all.find? (·.symbol = bare) with
  | some op => .ok op
  | none => .error (.unreadable text .unaryOperator)

end UnaryOp

end RowTyping
