namespace RowTyping

/-- The value kinds that a mask may cover, as messages list them. -/
def supportedValueKinds : String :=
  "int8, int16, int32, int64, uint8, uint16, uint32, uint64, float32, float64, bool, " ++
    "datetime64[ns|us|ms|s], timedelta64[ns|us|ms|s], object, string_view, owned_string"

/-- What a text was expected to name. -/
inductive Expected where
  | timeUnit
  | primitive
  | externalName
  | binaryOperator
  | unaryOperator
  | stringMethod
deriving DecidableEq, Repr

def Expected.reason : Expected → String
  | .timeUnit => "expected one of ns, us, ms, s"
  | .primitive => "unknown primitive type"
  | .externalName => "external type needs a name"
  | .binaryOperator => "unknown binary operator"
  | .unaryOperator => "unknown unary operator"
  | .stringMethod => "unknown string method"

inductive TypeError where
  /-- A mask was asked for over a kind that it cannot cover. -/
  | unsupportedValue (found : String)
  | noCommonType (left right : String)
  /-- No rule types the operation on these operands. -/
  | noOverload (operation : String) (operands : List String)
  | incompatibleCast (source target : String)
  | unknownAttribute (receiver member : String)
  | argumentCount (callee : String) (expected actual : Nat)
  | argumentMismatch (callee expected actual : String)
  /-- The result of a function cannot be packed. -/
  | invalidReturn (result : String)
  | unknownParameter (index : Nat)
  | stringsDisabled (operation : String)
  /-- The text names nothing of the expected sort. -/
  | unreadable (input : String) (expected : Expected)
deriving DecidableEq, Repr

def TypeError.message : TypeError → String
  | .unsupportedValue found =>
    s!"Unsupported MaskedType value kind `{found}`. This is usually caused by attempting to use " ++
      s!"a column of unsupported dtype in a UDF. Supported kinds are: {supportedValueKinds}"
  | .noCommonType left right => s!"Cannot unify {left} and {right}"
  | .noOverload operation operands =>
    s!"No applicable overload of `{operation}` for operands (" ++ ", ".intercalate operands ++ ")"
  | .incompatibleCast source target => s!"Cannot convert {source} to {target}"
  | .unknownAttribute receiver member => s!"{receiver} has no attribute `{member}`"
  | .argumentCount callee expected actual =>
    s!"{callee} takes {expected} argument(s), got {actual}"
  | .argumentMismatch callee expected actual => s!"{callee} expects {expected}, got {actual}"
  | .invalidReturn result => s!"Cannot return a value of type {result}"
  | .unknownParameter index => s!"Unknown parameter #{index}"
  | .stringsDisabled operation => s!"string operation `{operation}` is disabled"
  | .unreadable input expected => s!"Cannot parse `{input}`: " ++ expected.reason

end RowTyping
