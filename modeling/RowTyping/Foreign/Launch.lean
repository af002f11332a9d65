import RowTyping.Foreign.Routine

/-! Arguments of a launch. The launch takes scalars, column buffers and bare addresses only, so the
address of an owned string, which leads to a second pointer, is narrowed to a bare
address before it is handed over. -/

namespace RowTyping.Foreign

inductive ArgType where
  | scalar (type : Primitive)
  /-- A column buffer. -/
  | array (type : Primitive)
  | pointer (layout : Layout)
  /-- A bare 64-bit address. -/
  | address
deriving DecidableEq, Repr

def ArgType.text : ArgType → String
  | .scalar type => type.name
  | .array type => type.name ++ "[:]"
  | .pointer layout => layout.pointer
  | .address => "uint64"

inductive ArgValue where
  /-- A signed integer or a number of ticks. -/
  | int (value : Int64)
  | uint (value : UInt64)
  /-- A floating-point number, by its bits. -/
  | float (bits : UInt64)
  | bool (value : Bool)
  | address (value : UInt64)
deriving DecidableEq, Repr

structure LaunchArg where
  type : ArgType
  value : ArgValue
deriving DecidableEq, Repr

namespace LaunchArg

def ownedString (address : UInt64) : LaunchArg := ⟨.pointer .ownedString, .address address⟩

/-- Narrows the address of an owned string to a bare address, and keeps every other argument. -/
def narrow : LaunchArg → LaunchArg
  | ⟨.pointer .ownedString, .address address⟩ => ⟨.address, .uint address⟩
  | arg => arg

end LaunchArg

/-- Replaces an argument by the one to hand over. -/
abbrev Handler := LaunchArg → LaunchArg

def prepare (handlers : List Handler) (args : List LaunchArg) : List LaunchArg :=
  args.map fun arg => handlers.foldl (fun arg handler => handler arg) arg

end RowTyping.Foreign
