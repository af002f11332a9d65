import RowTyping.Scalar.Basic

namespace RowTyping.Ty

/-- Join the value under a mask with another unmasked type and mask the result; `a` and `b`
are the joined types, which a failure names. -/
def unifyMasked (scalar : ScalarTyping) (value : MaskedValue) (other a b : Ty) :
    Except TypeError Ty :=
  match scalar.unify value.type other with
  | some ty => ty.mask
  | none => .error (.noCommonType a.name b.name)

/-- The common type of two types. The value of a masked operand is always the first argument
of the scalar join. -/
def unify (scalar : ScalarTyping) (a b : Ty) : Except TypeError Ty :=
  match a, b with
  | .masked value, .null | .null, .masked value => .ok (.masked value)
  | .masked value, .masked other => unifyMasked scalar value other.type a b
  | .masked value, other | other, .masked value => unifyMasked scalar value other a b
  | .null, .null => .ok .null
  | .null, other | other, .null => other.mask
  | _, _ =>
    match scalar.unify a b with
    | some ty => .ok ty
    | none => .error (.noCommonType a.name b.name)

/-- The join of a list of types from the left: each common type so far, and the failure that
ends the list early. -/
def unifyAll (scalar : ScalarTyping) : List Ty → List Ty × Option TypeError
  | [] => ([], none)
  | first :: rest => go first rest
where
  go (joined : Ty) : List Ty → List Ty × Option TypeError
    | [] => ([joined], none)
    | next :: rest =>
      match unify scalar joined next with
      | .ok ty =>
        let (types, failure) := go ty rest
        (joined :: types, failure)
      | .error failure => ([joined], some failure)

end RowTyping.Ty
