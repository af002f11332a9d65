import RowTyping.Ty

namespace RowTyping

structure Signature where
  result : Ty
  /-- Argument types, the receiver of a method apart. -/
  args : List Ty
  receiver : Option Ty := none
deriving DecidableEq, Repr

/-- Text form: `receiver.(arguments) -> result`. -/
def Signature.text (signature : Signature) : String :=
  let receiver := match signature.receiver with
    | some ty => ty.name ++ "."
    | none => ""
  receiver ++ "(" ++ ", ".intercalate (signature.args.map Ty.name) ++ ") -> " ++
    signature.result.name

end RowTyping
