import RowTyping.Text.Blank
import RowTyping.TypeError

namespace RowTyping

/-- Units of temporal values, from coarse to fine. -/
inductive TimeUnit where
  | s
  | ms
  | us
  | ns
deriving DecidableEq, Repr

namespace TimeUnit

/-- Every unit, finest first. -/
def all : List TimeUnit := [.ns, .us, .ms, .s]

def name : TimeUnit → String
  | .s => "s"
  | .ms => "ms"
  | .us => "us"
  | .ns => "ns"

/-- Position in the order from coarse to fine. -/
def rank : TimeUnit → Nat
  | .s => 0
  | .ms => 1
  | .us => 2
  | .ns => 3

def finer (a b : TimeUnit) : TimeUnit := if a.rank ≤ b.rank then b else a

/-- The unit that a text spells; blanks are not dropped. -/
def ofName? : String → Option TimeUnit
  | "s" => some .s
  | "ms" => some .ms
  | "us" => some .us
  | "ns" => some .ns
  | _ => none

def ofName (text : String) : Except TypeError TimeUnit :=
  match ofName? text with
  | some unit => .ok unit
  | none => .error (.unreadable text .timeUnit)

end TimeUnit

inductive Width where
  | w8
  | w16
  | w32
  | w64
deriving DecidableEq, Repr

namespace Width

def bits : Width → Nat
  | .w8 => 8
  | .w16 => 16
  | .w32 => 32
  | .w64 => 64

def ofBits? : Nat → Option Width
  | 8 => some .w8
  | 16 => some .w16
  | 32 => some .w32
  | 64 => some .w64
  | _ => none

def double? : Width → Option Width
  | .w8 => some .w16
  | .w16 => some .w32
  | .w32 => some .w64
  | .w64 => none

def wider (a b : Width) : Width := if a.bits ≤ b.bits then b else a

end Width

/-- Types of single unmasked values other than strings. -/
inductive Primitive where
  | bool
  | int (width : Width)
  | uint (width : Width)
  | float32
  | float64
  /-- An instant. -/
  | datetime (unit : TimeUnit)
  /-- A duration. -/
  | timedelta (unit : TimeUnit)
  | object
deriving DecidableEq, Repr

namespace Primitive

def integers : List Primitive :=
  [.int .w8, .int .w16, .int .w32, .int .w64, .uint .w8, .uint .w16, .uint .w32, .uint .w64]

def floats : List Primitive := [.float32, .float64]

/-- Every primitive type; an instant and a duration alternate, finest unit first. -/
def all : List Primitive :=
  [.bool] ++ integers ++ floats ++
    TimeUnit.all.flatMap (fun unit => [.datetime unit, .timedelta unit]) ++ [.object]

def isSigned : Primitive → Bool
  | .int _ => true
  | _ => false

def isUnsigned : Primitive → Bool
  | .uint _ => true
  | _ => false

def isInteger : Primitive → Bool
  | .int _ | .uint _ => true
  | _ => false

def isFloat : Primitive → Bool
  | .float32 | .float64 => true
  | _ => false

def isNumeric (p : Primitive) : Bool := p.isInteger || p.isFloat

def isBool : Primitive → Bool
  | .bool => true
  | _ => false

/-- Numbers and truth values, which promote among each other. -/
def isNumberLike (p : Primitive) : Bool := p.isNumeric || p.isBool

def isTemporal : Primitive → Bool
  | .datetime _ | .timedelta _ => true
  | _ => false

/-- The unit that a temporal type counts. -/
def unit? : Primitive → Option TimeUnit
  | .datetime unit | .timedelta unit => some unit
  | _ => none

def bits? : Primitive → Option Nat
  | .int width | .uint width => some width.bits
  | .float32 => some 32
  | .float64 => some 64
  | _ => none

def signed? (bits : Nat) : Option Primitive := (Width.ofBits? bits).map .int

def unsigned? (bits : Nat) : Option Primitive := (Width.ofBits? bits).map .uint

def float? : Nat → Option Primitive
  | 32 => some .float32
  | 64 => some .float64
  | _ => none

def name : Primitive → String
  | .bool => "bool"
  | .int .w8 => "int8"
  | .int .w16 => "int16"
  | .int .w32 => "int32"
  | .int .w64 => "int64"
  | .uint .w8 => "uint8"
  | .uint .w16 => "uint16"
  | .uint .w32 => "uint32"
  | .uint .w64 => "uint64"
  | .float32 => "float32"
  | .float64 => "float64"
  | .datetime unit => "datetime64[" ++ unit.name ++ "]"
  | .timedelta unit => "timedelta64[" ++ unit.name ++ "]"
  | .object => "object"

/-- The primitive that a text without blanks at its ends spells. -/
def ofTrimmed (text : List Char) : Except TypeError Primitive :=
  match String.ofList text with
  | "bool" | "boolean" => .ok .bool
  | "int8" => .ok (.int .w8)
  | "int16" => .ok (.int .w16)
  | "int32" => .ok (.int .w32)
  | "int64" => .ok (.int .w64)
  | "uint8" => .ok (.uint .w8)
  | "uint16" => .ok (.uint .w16)
  | "uint32" => .ok (.uint .w32)
  | "uint64" => .ok (.uint .w64)
  | "float32" => .ok .float32
  | "float64" => .ok .float64
  | "object" => .ok .object
  | spelling =>
    match Text.between? "datetime64[" "]" text with
    | some unit => .datetime <$> TimeUnit.ofName (String.ofList unit)
    | none =>
      match Text.between? "timedelta64[" "]" text with
      | some unit => .timedelta <$> TimeUnit.ofName (String.ofList unit)
      | none => .error (.unreadable spelling .primitive)

def ofName (text : String) : Except TypeError Primitive := ofTrimmed (Text.trim text.toList)

end Primitive

end RowTyping
