import RowTyping.Proofs.Elaboration

namespace RowTyping

/-- A typed function with types in place of ids. -/
structure ResolvedFunction where
  nodes : List Node
  signatures : List (NodeId × Signature)
  conversions : List Site
  body : Ty
  result : Ty
deriving DecidableEq, Repr

def TypedNode.resolve? (ctx : Context) (typed : TypedNode) : Option Node := do
  let type ← ctx.get? typed.type
  return { type, signature := typed.signature }

def ConversionSite.resolve? (ctx : Context) (typed : ConversionSite) : Option Site := do
  let source ← ctx.get? typed.source
  let target ← ctx.get? typed.target
  return ⟨typed.node, source, target, typed.conversion⟩

def TypedFunction.resolve? (ctx : Context) (function : TypedFunction) :
    Option ResolvedFunction := do
  let nodes ← function.nodes.mapM (·.resolve? ctx)
  let conversions ← function.conversions.mapM (·.resolve? ctx)
  let body ← ctx.get? function.body
  let result ← ctx.get? function.result
  return ⟨nodes, function.signatures, conversions, body, result⟩

variable {env : TypingEnv} {params : List Ty} {ctx : Context}

theorem TypedNode.Shows.resolve? {typed : TypedNode} (shown : typed.Shows env params ctx e) :
    ∃ node, nodeOf env params e = .ok node ∧ typed.resolve? ctx = some node := by
  obtain ⟨node, success, found, signature⟩ := shown
  refine ⟨node, success, ?_⟩
  simp [TypedNode.resolve?, Context.get?_of_lookup? found, signature]

theorem ConversionSite.Shows.resolve? {typed : ConversionSite} (shown : typed.Shows ctx site) :
    typed.resolve? ctx = some site := by
  simp [ConversionSite.resolve?, Context.get?_of_lookup? shown.source,
    Context.get?_of_lookup? shown.target, shown.node, shown.conversion]

/-- The nodes of a list of expressions, those that cannot be typed left out. -/
def nodesOf (env : TypingEnv) (params : List Ty) (es : List Expr) : List Node :=
  es.filterMap fun e => (nodeOf env params e).toOption

theorem resolve_nodes (shown : List.Forall₂ (TypedNode.Shows env params ctx) typed es) :
    typed.mapM (·.resolve? ctx) = some (nodesOf env params es) := by
  induction shown with
  | nil => rfl
  | cons head _ ih =>
    obtain ⟨node, success, resolved⟩ := head.resolve?
    rw [List.mapM_cons, resolved, ih]
    simp [nodesOf, success, Except.toOption]

private theorem resolve_sites (shown : List.Forall₂ (ConversionSite.Shows ctx) typed sites) :
    typed.mapM (·.resolve? ctx) = some sites := by
  induction shown with
  | nil => rfl
  | cons head _ ih =>
    rw [List.mapM_cons, head.resolve?, ih]
    rfl

/-- What a typed function resolves to is fixed by its body. -/
theorem TypedFunction.Shows.resolve? {function : TypedFunction} {body : Expr}
    (shown : function.Shows env params ctx body type packed) :
    function.resolve? ctx = some
      ⟨nodesOf env params body.postorder, signaturesFrom env params 0 body.postorder,
        sitesFrom env params 0 body.postorder, type, packed⟩ := by
  simp [TypedFunction.resolve?, resolve_nodes shown.each_node, resolve_sites shown.conversions,
    shown.signatures, Context.get?_of_lookup? shown.body, Context.get?_of_lookup? shown.result]

/-- In any two contexts, typing a function fails in the same way, or it succeeds with results
that resolve, each in its own context, to the same nodes, conversions and types. -/
theorem inferFunction_history_independent (env : TypingEnv) (first second : Context)
    (params : List Ty) (body : Expr) :
    match inferFunction env first params body, inferFunction env second params body with
    | (.ok function, grown), (.ok other, otherGrown) =>
      ∃ resolved, function.resolve? grown = some resolved ∧
        other.resolve? otherGrown = some resolved
    | (.error failure, _), (.error other, _) => failure = other
    | _, _ => False := by
  cases outcome : packedTypeOf env params body with
  | error failure =>
    obtain ⟨_, failed⟩ := inferFunction_error outcome first
    obtain ⟨_, otherFailed⟩ := inferFunction_error outcome second
    rw [failed, otherFailed]
  | ok types =>
    obtain ⟨function, grown, success, _, shown⟩ := inferFunction_ok outcome first
    obtain ⟨other, otherGrown, otherSuccess, _, otherShown⟩ := inferFunction_ok outcome second
    rw [success, otherSuccess]
    exact ⟨_, shown.resolve?, otherShown.resolve?⟩

end RowTyping
