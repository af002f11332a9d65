import RowTyping.Primitive

/-! The types that expressions have. A mask pairs a value with a validity flag; it covers a
primitive or an owned string, never a view, a literal, `NA` or another mask. -/

namespace RowTyping

/-- What a mask covers. -/
inductive MaskedValue where
  | primitive (type : Primitive)
  | ownedString
deriving DecidableEq, Repr

inductive Ty where
  | primitive (type : Primitive)
  | stringView
  /-- Text with a buffer of its own. -/
  | ownedString
  /-- A string constant of the source. -/
  | stringLiteral
  /-- A value that may be missing. -/
  | masked (value : MaskedValue)
  | null
  /-- A type known by name only. -/
  | external (name : String)
deriving DecidableEq, Repr

/-- The shape of a type, by which rules are chosen. -/
inductive Kind where
  | primitive
  | stringView
  | ownedString
  | stringLiteral
  | masked
  | null
  | external
deriving DecidableEq, Repr

def Kind.all : List Kind :=
  [.primitive, .stringView, .ownedString, .stringLiteral, .masked, .null, .external]

namespace MaskedValue

def type : MaskedValue → Ty
  | .primitive p => .primitive p
  | .ownedString => .ownedString

def primitive? : MaskedValue → Option Primitive
  | .primitive p => some p
  | .ownedString => none

def isString : MaskedValue → Bool
  | .ownedString => true
  | .primitive _ => false

/-- The value that a mask over a type holds; a view is held as an owned string. -/
def ofTy? : Ty → Option MaskedValue
  | .primitive p => some (.primitive p)
  | .stringView | .ownedString => some .ownedString
  | _ => none

end MaskedValue

namespace Ty

def bool : Ty := .primitive .bool

/-- The only masked type with string operations. -/
def maskedString : Ty := .masked .ownedString

def kind : Ty → Kind
  | .primitive _ => .primitive
  | .stringView => .stringView
  | .ownedString => .ownedString
  | .stringLiteral => .stringLiteral
  | .masked _ => .masked
  | .null => .null
  | .external _ => .external

def isPrimitive : Ty → Bool
  | .primitive _ => true
  | _ => false

def isMasked : Ty → Bool
  | .masked _ => true
  | _ => false

def isNull : Ty → Bool
  | .null => true
  | _ => false

def isStoredString : Ty → Bool
  | .stringView | .ownedString => true
  | _ => false

def isString : Ty → Bool
  | .stringView | .ownedString | .stringLiteral => true
  | _ => false

def primitive? : Ty → Option Primitive
  | .primitive p => some p
  | _ => none

def masked? : Ty → Option MaskedValue
  | .masked value => some value
  | _ => none

/-- The type under a mask; any other type is left as it is. -/
def unmasked : Ty → Ty
  | .masked value => value.type
  | ty => ty

def name : Ty → String
  | .primitive p => p.name
  | .stringView => "string_view"
  | .ownedString => "owned_string"
  | .stringLiteral => "Literal[str]"
  | .masked (.primitive p) => "Masked(" ++ p.name ++ ")"
  | .masked .ownedString => "Masked(owned_string)"
  | .null => "NA"
  | .external name => name

/-- The mask over a type, if it can be covered. -/
def mask (ty : Ty) : Except TypeError Ty :=
  match MaskedValue.ofTy? ty with
  | some value => .ok (.masked value)
  | none => .error (.unsupportedValue ty.name)

/-- The fields of a masked value, in the order of its layout. -/
def maskFields (value : MaskedValue) : List (String × Ty) :=
  [("value", value.type), ("valid", bool)]

end Ty

end RowTyping
