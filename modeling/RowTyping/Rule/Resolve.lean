import RowTyping.Foreign.Routine
import RowTyping.Rule.Basic
import RowTyping.Scalar.Basic
import RowTyping.Settings.Basic
import RowTyping.Signature

/-! What each rule answers, and the typing of an operation by its rule. A rule checks its
operands itself: given operands that do not fit, it declines as if it were not in the table. -/

namespace RowTyping

/-- What rules consult besides their operands. -/
structure TypingEnv where
  scalar : ScalarTyping
  settings : Settings

namespace Operation

/-- The failure of an operation without a matching rule. A single result that cannot be
packed is reported as such. -/
def decline : Operation → List Ty → TypeError
  | .pack, [ty] => .invalidReturn ty.name
  | operation, operands => .noOverload operation.name (operands.map Ty.name)

end Operation

def TypingEnv.requireStrings (env : TypingEnv) (operation : String) : Except TypeError Unit :=
  if env.settings.stringOps then .ok () else .error (.stringsDisabled operation)

namespace Rule

/-- The signature of an operation whose result may be undefined. -/
def signatureOr (failure : TypeError) (operands : List Ty) : Option Ty → Except TypeError Signature
  | some result => .ok ⟨result, operands, none⟩
  | none => .error failure

/-- The signature of an operation whose result, if defined, is masked. -/
def maskedSignatureOr (failure : TypeError) (operands : List Ty) :
    Option Ty → Except TypeError Signature
  | some value => value.mask.map fun result => ⟨result, operands, none⟩
  | none => .error failure

/-- The signature of the explicit masking of `value` with the flag `valid`. -/
def constructSignature (env : TypingEnv) (operation : Operation) (value valid : Ty) :
    Except TypeError Signature :=
  let masked : Except TypeError Signature :=
    value.mask.map fun result => ⟨result, [value, .bool], none⟩
  if valid ≠ .bool then .error (.argumentMismatch operation.name Ty.bool.name valid.name)
  else
    match value.primitive?.bind Primitive.unit? with
    | some unit =>
      if env.settings.accepts unit then masked
      else
        let units := ", ".intercalate (env.settings.timeUnits.map TimeUnit.name)
        .error (.argumentMismatch operation.name
          ("a temporal value in one of [" ++ units ++ "]") value.name)
    | none => masked

def apply (env : TypingEnv) (rule : Rule) (operation : Operation) (operands : List Ty) :
    Except TypeError Signature :=
  let declined := operation.decline operands
  match rule, operation, operands with
  | .bothMasked, .binary op, [.masked a, .masked b] =>
    maskedSignatureOr declined operands (env.scalar.binary op a.type b.type)
  | .maskedNull, _, _ => signatureOr declined operands (operands.find? Ty.isMasked)
  | .maskedValue, .binary op, [a, b] =>
    maskedSignatureOr declined operands (env.scalar.binary op a.unmasked b.unmasked)
  | .plainBinary, .binary op, [a, b] => signatureOr declined operands (env.scalar.binary op a b)
  | .maskedUnary, .unary op, [.masked a] =>
    maskedSignatureOr declined operands (env.scalar.unary op a.type)
  | .plainUnary, .unary op, [a] => signatureOr declined operands (env.scalar.unary op a)
  | .nullTest, _, _ => .ok ⟨.bool, operands, none⟩
  | .truth, _, [.masked (.primitive .bool)] | .truth, _, [.primitive .bool] =>
    .ok ⟨.bool, operands, none⟩
  | .packMasked, _, [.masked value] => .ok ⟨.masked value, operands, none⟩
  | .packValue, _, [value] => maskedSignatureOr declined operands (some value)
  | .construct, _, [value, valid] => constructSignature env operation value valid
  | .maskedLength, _, [.masked .ownedString] =>
    (env.requireStrings operation.name).map fun _ =>
      ⟨.masked (.primitive Foreign.Routine.length.result.primitive), operands, none⟩
  | .maskedLength, _, _ => .error (.noOverload operation.name (operands.map Ty.name))
  | .plainLength, _, _ => .ok ⟨.primitive Foreign.Routine.length.result.primitive, operands, none⟩
  | _, _, _ => .error declined

end Rule

def resolve (env : TypingEnv) (operation : Operation) (operands : List Ty) :
    Except TypeError Signature :=
  match (Pattern.ofOperands? operands).bind (Rule.find? operation) with
  | some rule => rule.apply env operation operands
  | none => .error (operation.decline operands)

end RowTyping
