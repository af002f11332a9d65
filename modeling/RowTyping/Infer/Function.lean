import RowTyping.Infer.Check

namespace RowTyping

structure TypedFunction where
  nodeTypes : List TypeId
  /-- The signatures of the nodes that apply an operation. -/
  signatures : List (NodeId × Signature)
  /-- Conversions at joins and masked values, in order of recording. -/
  conversions : List ConversionSite
  body : TypeId
  /-- Type of the packed result, which is always masked. -/
  result : TypeId
deriving DecidableEq, Repr

def TypedFunction.nodes (function : TypedFunction) : List TypedNode :=
  TypedNode.list function.nodeTypes function.signatures

def inferFunction (env : TypingEnv) (ctx : Context) (params : List Ty) (body : Expr) :
    Except TypeError TypedFunction × Context :=
  let (outcome, session) := (checkBody env params body).run.run { context := ctx.internAll params }
  let function (ids : TypeId × TypeId) : TypedFunction :=
    ⟨session.nodeTypes, session.signatures, session.conversions, ids.1, ids.2⟩
  (outcome.map function, session.context)

end RowTyping
