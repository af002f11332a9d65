import RowTyping.StringMethod

namespace RowTyping

/-- What `receiver.name` refers to. -/
inductive Attribute where
  | member (type : Ty)
  /-- A bound method, which is only meaningful when it is called. -/
  | method (method : StringMethod)
deriving DecidableEq, Repr

def Attribute.resolve (env : TypingEnv) (receiver : Ty) (name : String) :
    Except TypeError Attribute :=
  let unknown := .error (.unknownAttribute receiver.name name)
  match receiver with
  | .masked value =>
    match name with
    | "value" => .ok (.member value.type)
    | "valid" => .ok (.member .bool)
    | _ =>
      match StringMethod.ofName? name with
      | some bound =>
        if value.isString then (env.requireStrings bound.name).map fun _ => .method bound
        else unknown
      | none => unknown
  | _ => unknown

end RowTyping
