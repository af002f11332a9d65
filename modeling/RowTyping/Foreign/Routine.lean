import RowTyping.Primitive

namespace RowTyping.Foreign

/-- What a routine's parameter points to. -/
inductive Layout where
  | ownedString
  | stringView
deriving DecidableEq, Repr

def Layout.pointer : Layout → String
  | .ownedString => "owned_string*"
  | .stringView => "string_view*"

/-- Whether a routine reads or writes through a parameter. -/
inductive Role where
  | input
  | output
deriving DecidableEq, Repr

structure Parameter where
  layout : Layout
  role : Role
deriving DecidableEq, Repr

/-- A parameter as prototypes spell it. -/
def Parameter.spelling (parameter : Parameter) : String :=
  match parameter.role with
  | .input => "const " ++ parameter.layout.pointer
  | .output => parameter.layout.pointer

inductive Return where
  | bool
  | length
  /-- A character index, negative when nothing was found. -/
  | index
  /-- Negative on failure, otherwise the number of bytes written. -/
  | status
deriving DecidableEq, Repr

namespace Return

def spelling : Return → String
  | .bool => "bool"
  | .length | .index | .status => "int32_t"

/-- The primitive that typing gives to the returned value. -/
def primitive : Return → Primitive
  | .bool => .bool
  | .length | .index | .status => .int .w32

end Return

structure Routine where
  name : String
  parameters : List Parameter
  result : Return
deriving DecidableEq, Repr

namespace Routine

def inputs (routine : Routine) : List Parameter := routine.parameters.filter (·.role = .input)

def hasOutput (routine : Routine) : Bool := routine.parameters.any (·.role = .output)

def prototype (routine : Routine) : String :=
  routine.result.spelling ++ " " ++ routine.name ++ "(" ++
    ", ".intercalate (routine.parameters.map Parameter.spelling) ++ ")"

def ownedIn : Parameter := ⟨.ownedString, .input⟩
def ownedOut : Parameter := ⟨.ownedString, .output⟩
def viewIn : Parameter := ⟨.stringView, .input⟩

def length : Routine := ⟨"length", [ownedIn], .length⟩
def startsWith : Routine := ⟨"startswith", [ownedIn, ownedIn], .bool⟩
def endsWith : Routine := ⟨"endswith", [ownedIn, ownedIn], .bool⟩
def find : Routine := ⟨"find", [ownedIn, ownedIn], .index⟩
def rfind : Routine := ⟨"rfind", [ownedIn, ownedIn], .index⟩
def upper : Routine := ⟨"upper", [ownedIn, ownedOut], .status⟩
def lower : Routine := ⟨"lower", [ownedIn, ownedOut], .status⟩

def materialize : Routine := ⟨"materialize_from_view", [viewIn, ownedOut], .status⟩

/-- Every routine, in the order in which they are listed. -/
def all : List Routine :=
  [length, startsWith, endsWith, find, rfind, upper, lower, materialize]

def lookup? (name : String) : Option Routine := all.find? (·.name = name)

end Routine

end RowTyping.Foreign
