import RowTyping.Operator
import RowTyping.Ty

namespace RowTyping

inductive Operation where
  | binary (op : BinaryOp)
  | unary (op : UnaryOp)
  /-- Identity test against `NA`. -/
  | isNull
  /-- Truth of a branch condition. -/
  | truth
  | pack
  | len
  /-- Masking of a value with a validity flag. -/
  | construct
deriving DecidableEq, Repr

namespace Operation

def name : Operation → String
  | .binary op => op.symbol
  | .unary op => op.symbol
  | .isNull => "is"
  | .truth => "bool"
  | .pack => "return"
  | .len => "len"
  | .construct => "Masked"

def all : List Operation :=
  BinaryOp.all.map .binary ++ UnaryOp.all.map .unary ++ [.isNull, .truth, .pack, .construct, .len]

end Operation

/-- The kinds of one or two operands, in order. -/
inductive Pattern where
  | one (kind : Kind)
  | two (left right : Kind)
deriving DecidableEq, Repr

namespace Pattern

/-- The pattern of an operand list; other counts have none. -/
def ofOperands? : List Ty → Option Pattern
  | [a] => some (.one a.kind)
  | [a, b] => some (.two a.kind b.kind)
  | _ => none

def all : List Pattern :=
  Kind.all.map .one ++ Kind.all.flatMap fun left => Kind.all.map (.two left)

def kinds : Pattern → List Kind
  | .one kind => [kind]
  | .two left right => [left, right]

end Pattern

/-- Kinds of the plain values that operators take: primitives and texts. -/
def Kind.isValue : Kind → Bool
  | .primitive | .stringView | .ownedString | .stringLiteral => true
  | .masked | .null | .external => false

/-- Kinds of the values that may be masked explicitly. -/
def Kind.isMaskable : Kind → Bool
  | .primitive | .stringView | .ownedString => true
  | .stringLiteral | .masked | .null | .external => false

inductive Rule where
  /-- Both operands masked: the operator on the values, masked. -/
  | bothMasked
  /-- A masked operand and `NA`: the masked operand's type. -/
  | maskedNull
  /-- One masked operand: the operator on the values, masked. -/
  | maskedValue
  | plainBinary
  | maskedUnary
  | plainUnary
  /-- The validity flag is always known, so the test yields a plain truth value. -/
  | nullTest
  | truth
  | packMasked
  | packValue
  | construct
  | maskedLength
  | plainLength
deriving DecidableEq, Repr

namespace Rule

/-- The rule for an operation on operands of the given kinds. -/
def find? : Operation → Pattern → Option Rule
  | .binary _, .two .masked .masked => some .bothMasked
  | .binary _, .two .masked .null | .binary _, .two .null .masked => some .maskedNull
  | .binary _, .two .masked kind | .binary _, .two kind .masked =>
    if kind.isValue then some .maskedValue else none
  | .binary _, .two left right => if left.isValue && right.isValue then some .plainBinary else none
  | .unary _, .one .masked => some .maskedUnary
  | .unary _, .one .primitive => some .plainUnary
  | .isNull, .two .masked .null | .isNull, .two .null .masked => some .nullTest
  | .truth, .one .masked | .truth, .one .primitive => some .truth
  | .pack, .one .masked => some .packMasked
  | .pack, .one .primitive => some .packValue
  | .construct, .two kind .primitive => if kind.isMaskable then some .construct else none
  | .len, .one .masked => some .maskedLength
  | .len, .one .stringLiteral | .len, .one .stringView | .len, .one .ownedString =>
    some .plainLength
  | _, _ => none

def table : List (Operation × Pattern × Rule) :=
  Operation.all.flatMap fun operation =>
    Pattern.all.filterMap fun pattern =>
      (find? operation pattern).map fun rule => (operation, pattern, rule)

end Rule

end RowTyping
