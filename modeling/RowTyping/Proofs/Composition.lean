import RowTyping.Proofs.Judgment
import Mathlib.Data.List.Forall2

namespace RowTyping

section Equations

variable (env : TypingEnv) (params : List Ty)

private theorem typeOf_eq_map (e : Expr) :
    typeOf env params e = Node.type <$> nodeOf env params e := rfl

theorem typeOf_literal (value : Literal) :
    typeOf env params (.literal value) = .ok (value.type env.settings) := by
  rw [typeOf, nodeOf]
  rfl

theorem typeOf_param (index : Nat) :
    typeOf env params (.param index) =
      match params[index]? with
      | some type => .ok type
      | none => .error (.unknownParameter index) := by
  rw [typeOf, nodeOf]
  cases params[index]? <;> rfl

theorem typeOf_na : typeOf env params .na = .ok .null := by
  rw [typeOf, nodeOf]
  rfl

theorem typeOf_masked (value valid : Expr) :
    typeOf env params (.masked value valid) = (do
      let valueType ← typeOf env params value
      let validType ← typeOf env params valid
      let signature ← resolve env .construct [valueType, validType]
      return signature.result) := by
  simp only [typeOf_eq_map, nodeOf, map_bind, bind_map_left]
  rfl

theorem typeOf_binary (op : BinaryOp) (left right : Expr) :
    typeOf env params (.binary op left right) = (do
      let leftType ← typeOf env params left
      let rightType ← typeOf env params right
      let signature ← resolve env (.binary op) [leftType, rightType]
      return signature.result) := by
  simp only [typeOf_eq_map, nodeOf, map_bind, bind_map_left]
  rfl

theorem typeOf_unary (op : UnaryOp) (operand : Expr) :
    typeOf env params (.unary op operand) = (do
      let type ← typeOf env params operand
      let signature ← resolve env (.unary op) [type]
      return signature.result) := by
  simp only [typeOf_eq_map, nodeOf, map_bind, bind_map_left]
  rfl

theorem typeOf_isNull (left right : Expr) :
    typeOf env params (.isNull left right) = (do
      let leftType ← typeOf env params left
      let rightType ← typeOf env params right
      let signature ← resolve env .isNull [leftType, rightType]
      return signature.result) := by
  simp only [typeOf_eq_map, nodeOf, map_bind, bind_map_left]
  rfl

theorem typeOf_len (operand : Expr) :
    typeOf env params (.len operand) = (do
      let type ← typeOf env params operand
      let signature ← resolve env .len [type]
      return signature.result) := by
  simp only [typeOf_eq_map, nodeOf, map_bind, bind_map_left]
  rfl

theorem typeOf_attr (base : Expr) (name : String) :
    typeOf env params (.attr base name) = (do memberType env (← typeOf env params base) name) := by
  simp only [typeOf_eq_map, nodeOf, map_bind, bind_map_left]
  congr
  funext node
  cases memberType env node.type name <;> rfl

theorem argTypesOf_cons (arg : Expr) (rest : List Expr) :
    argTypesOf env params (arg :: rest) = (do
      let type ← typeOf env params arg
      let types ← argTypesOf env params rest
      return type :: types) := by
  simp only [typeOf_eq_map, argTypesOf, bind_map_left]

theorem typeOf_call (receiver : Expr) (name : String) (args : List Expr) :
    typeOf env params (.call receiver name args) = (do
      let receiverType ← typeOf env params receiver
      let types ← argTypesOf env params args
      let method ← calledMethod env receiverType name
      let signature ← method.signature env receiverType types
      return signature.result) := by
  simp only [typeOf_eq_map, nodeOf, map_bind, bind_map_left]
  rfl

theorem typeOf_join (cond thenBranch elseBranch : Expr) :
    typeOf env params (.ifElse cond thenBranch elseBranch) = (do
      let condType ← typeOf env params cond
      let _ ← resolve env .truth [condType]
      let thenType ← typeOf env params thenBranch
      let elseType ← typeOf env params elseBranch
      let joined ← Ty.unify env.scalar thenType elseType
      let _ ← Conversion.classify env.scalar thenType joined
      let _ ← Conversion.classify env.scalar elseType joined
      return joined) := by
  simp only [typeOf_eq_map, nodeOf, map_bind, bind_map_left]
  rfl

theorem packedTypeOf_eq (body : Expr) :
    packedTypeOf env params body = (do
      let type ← typeOf env params body
      let packed ← resolve env .pack [type]
      return (type, packed.result)) := by
  simp only [packedTypeOf, typeOf_eq_map, bind_map_left]

end Equations

variable {env : TypingEnv} {params others : List Ty} {e : Expr} {args : List Expr}

/-- The expression has the same type, or the same failure, under either parameters. -/
abbrev TypesAlike (env : TypingEnv) (params others : List Ty) (first second : Expr) : Prop :=
  typeOf env params first = typeOf env others second

theorem argTypesOf_alike (each : List.Forall₂ (TypesAlike env params others) args args') :
    argTypesOf env params args = argTypesOf env others args' := by
  induction each with
  | nil => rfl
  | cons head _ ih => rw [argTypesOf_cons, argTypesOf_cons, head, ih]

end RowTyping
