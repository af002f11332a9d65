import RowTyping.Scalar.Basic

/-! How a value of one type becomes a value of another. A conversion never removes a mask,
and a view enters a mask only as a copy. -/

namespace RowTyping

inductive Conversion where
  | exact
  /-- Convert the value, under its mask if it has one. -/
  | cast
  | wrapValid
  /-- A missing value of the target type. -/
  | nullToMasked
  | materialize
  /-- Copy text into an owned string and mask it as valid. -/
  | materializeValid
deriving DecidableEq, Repr

namespace Conversion

def name : Conversion → String
  | .exact => "exact"
  | .cast => "cast"
  | .wrapValid => "wrap-valid"
  | .nullToMasked => "null-to-masked"
  | .materialize => "materialize"
  | .materializeValid => "materialize-valid"

def isNoop (conversion : Conversion) : Bool := conversion = .exact

/-- A conversion that is possible when the scalar typing allows the cast. -/
def ifCast (allowed : Bool) (conversion : Conversion) (source target : Ty) :
    Except TypeError Conversion :=
  if allowed then .ok conversion else .error (.incompatibleCast source.name target.name)

def classify (scalar : ScalarTyping) (source target : Ty) : Except TypeError Conversion :=
  if source = target then .ok .exact
  else
    match source, target with
    | .null, .masked _ => .ok .nullToMasked
    | .masked a, .masked b => ifCast (scalar.canCast a.type b.type) .cast source target
    | .stringView, .ownedString | .stringLiteral, .ownedString => .ok .materialize
    | .stringView, .masked .ownedString | .stringLiteral, .masked .ownedString =>
      .ok .materializeValid
    | value, .masked m => ifCast (scalar.canCast value m.type) .wrapValid source target
    | .primitive _, .primitive _ => ifCast (scalar.canCast source target) .cast source target
    | _, _ => .error (.incompatibleCast source.name target.name)

end Conversion

end RowTyping
