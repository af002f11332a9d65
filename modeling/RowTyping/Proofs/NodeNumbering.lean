import RowTyping.Proofs.ConversionSites
import RowTyping.Proofs.History

namespace RowTyping

variable {env : TypingEnv} {params : List Ty} {ctx : Context} {body e : Expr} {node : Node}
variable {failure : TypeError} {signature : Signature} {operation : Operation} {operands : List Ty}

/-- The signature lists exactly these operands, and no receiver. -/
def Signature.Lists (signature : Signature) (operands : List Ty) : Prop :=
  signature.args = operands ∧ signature.receiver = none

namespace Rule

private theorem lists_of_map {outcome : Except TypeError α} {result : α → Ty}
    (found : outcome.map (fun answer => (⟨result answer, operands, none⟩ : Signature)) =
      .ok signature) : signature.Lists operands := by
  cases outcome with
  | error failure => cases found
  | ok answer =>
    cases found
    exact ⟨rfl, rfl⟩

private theorem signatureOr_lists (found : signatureOr failure operands value = .ok signature) :
    signature.Lists operands := by
  cases value with
  | none => cases found
  | some result =>
    cases found
    exact ⟨rfl, rfl⟩

private theorem maskedSignatureOr_lists
    (found : maskedSignatureOr failure operands value = .ok signature) :
    signature.Lists operands := by
  cases value with
  | none => cases found
  | some value => exact lists_of_map found

/-- Masking lists a plain flag, and a plain flag is all that it takes. -/
theorem constructSignature_lists
    (found : constructSignature env operation value valid = .ok signature) :
    signature.Lists [value, valid] := by
  unfold constructSignature at found
  split at found
  · cases found
  next plain =>
    have flag : valid = .bool := Decidable.not_not.mp plain
    subst flag
    split at found
    · split at found
      · exact lists_of_map found
      · cases found
    · exact lists_of_map found

private theorem apply_lists {rule : Rule}
    (found : rule.apply env operation operands = .ok signature) :
    signature.Lists operands := by
  unfold apply at found
  dsimp only at found
  split at found
  · exact maskedSignatureOr_lists found
  · exact signatureOr_lists found
  · exact maskedSignatureOr_lists found
  · exact signatureOr_lists found
  · exact maskedSignatureOr_lists found
  · exact signatureOr_lists found
  · cases found
    exact ⟨rfl, rfl⟩
  · cases found
    exact ⟨rfl, rfl⟩
  · cases found
    exact ⟨rfl, rfl⟩
  · cases found
    exact ⟨rfl, rfl⟩
  · exact maskedSignatureOr_lists found
  · exact constructSignature_lists found
  · exact lists_of_map found
  · cases found
  · cases found
    exact ⟨rfl, rfl⟩
  · cases found

end Rule

theorem resolve_lists (resolved : resolve env operation operands = .ok signature) :
    signature.Lists operands := by
  unfold resolve at resolved
  split at resolved
  · exact Rule.apply_lists resolved
  · cases resolved

private theorem StringMethod.signature_lists {method : StringMethod} {receiver : Ty}
    {args : List Ty}
    (resolved : method.signature env receiver args = .ok signature) :
    signature.args = args ∧ signature.receiver = some receiver := by
  obtain ⟨_, _, _, rfl⟩ := StringMethod.signature_eq_ok_iff.mp resolved
  exact ⟨rfl, rfl⟩

/-- Whether the node applies an operation with a signature. Constants, parameters, members and
joins do not. -/
def Expr.isApplication : Expr → Bool
  | .masked _ _ | .binary _ _ _ | .unary _ _ | .isNull _ _ | .len _ | .call _ _ _ => true
  | .literal _ | .param _ | .na | .attr _ _ | .ifElse _ _ _ => false

/-- The operands of an operation, the receiver of a call apart. -/
def Expr.arguments : Expr → List Expr
  | .masked value valid => [value, valid]
  | .binary _ left right | .isNull left right => [left, right]
  | .unary _ operand | .len operand => [operand]
  | .call _ _ args => args
  | .literal _ | .param _ | .na | .attr _ _ | .ifElse _ _ _ => []

def Expr.receiver? : Expr → Option Expr
  | .call receiver _ _ => some receiver
  | _ => none

/-- The signature lists the types of a node's operands, in order. -/
structure Signature.Describes (env : TypingEnv) (params : List Ty) (signature : Signature)
    (e : Expr) : Prop where
  args : List.Forall₂ (fun arg type => arg.TypesAs env params type) e.arguments signature.args
  receiver : Option.Rel (fun base type => base.TypesAs env params type) e.receiver?
    signature.receiver

private theorem Signature.Describes.of_lists
    (typed : List.Forall₂ (fun arg type => arg.TypesAs env params type) e.arguments operands)
    (lists : signature.Lists operands) (noReceiver : e.receiver? = none) :
    signature.Describes env params e where
  args := by
    rw [lists.1]
    exact typed
  receiver := by
    rw [noReceiver, lists.2]
    exact .none

private theorem argTypesOf_typesAs {args : List Expr} {types : List Ty}
    (typed : argTypesOf env params args = .ok types) :
    List.Forall₂ (fun arg type => arg.TypesAs env params type) args types := by
  induction args generalizing types with
  | nil =>
    cases typed
    exact .nil
  | cons arg rest ih =>
    rw [argTypesOf] at typed
    obtain ⟨node, head, typed⟩ := bind_eq_ok_iff.mp typed
    obtain ⟨later, tail, typed⟩ := bind_eq_ok_iff.mp typed
    cases typed
    exact .cons (Expr.typesAs_of_nodeOf head) (ih tail)

/-- A node applies an operation, with a signature that lists the operands, or it has none. -/
theorem nodeOf_signature (typed : nodeOf env params e = .ok node) :
    (e.isApplication = false ∧ node.signature = none) ∨
      (e.isApplication = true ∧
        ∃ signature, node = .applying signature ∧ signature.Describes env params e) := by
  cases e with
  | literal value =>
    rw [nodeOf] at typed
    cases typed
    exact .inl ⟨rfl, rfl⟩
  | param index =>
    rw [nodeOf] at typed
    split at typed
    · cases typed
      exact .inl ⟨rfl, rfl⟩
    · cases typed
  | na =>
    rw [nodeOf] at typed
    cases typed
    exact .inl ⟨rfl, rfl⟩
  | masked value valid =>
    rw [nodeOf] at typed
    obtain ⟨_, _, signature, valueTyped, validTyped, resolved, rfl⟩ := resolveTwo_ok typed
    refine .inr ⟨rfl, signature, rfl, .of_lists ?_ (resolve_lists resolved) rfl⟩
    exact .cons (Expr.typesAs_of_nodeOf valueTyped) (.cons (Expr.typesAs_of_nodeOf validTyped) .nil)
  | binary op left right =>
    rw [nodeOf] at typed
    obtain ⟨_, _, signature, leftTyped, rightTyped, resolved, rfl⟩ := resolveTwo_ok typed
    refine .inr ⟨rfl, signature, rfl, .of_lists ?_ (resolve_lists resolved) rfl⟩
    exact .cons (Expr.typesAs_of_nodeOf leftTyped) (.cons (Expr.typesAs_of_nodeOf rightTyped) .nil)
  | unary op operand =>
    rw [nodeOf] at typed
    obtain ⟨_, signature, operandTyped, resolved, rfl⟩ := resolveOne_ok typed
    refine .inr ⟨rfl, signature, rfl, .of_lists ?_ (resolve_lists resolved) rfl⟩
    exact .cons (Expr.typesAs_of_nodeOf operandTyped) .nil
  | isNull left right =>
    rw [nodeOf] at typed
    obtain ⟨_, _, signature, leftTyped, rightTyped, resolved, rfl⟩ := resolveTwo_ok typed
    refine .inr ⟨rfl, signature, rfl, .of_lists ?_ (resolve_lists resolved) rfl⟩
    exact .cons (Expr.typesAs_of_nodeOf leftTyped) (.cons (Expr.typesAs_of_nodeOf rightTyped) .nil)
  | len operand =>
    rw [nodeOf] at typed
    obtain ⟨_, signature, operandTyped, resolved, rfl⟩ := resolveOne_ok typed
    refine .inr ⟨rfl, signature, rfl, .of_lists ?_ (resolve_lists resolved) rfl⟩
    exact .cons (Expr.typesAs_of_nodeOf operandTyped) .nil
  | attr base name =>
    rw [nodeOf] at typed
    obtain ⟨_, _, typed⟩ := bind_eq_ok_iff.mp typed
    obtain ⟨_, _, typed⟩ := bind_eq_ok_iff.mp typed
    cases typed
    exact .inl ⟨rfl, rfl⟩
  | call receiver name args =>
    rw [nodeOf] at typed
    obtain ⟨receiverNode, receiverTyped, typed⟩ := bind_eq_ok_iff.mp typed
    obtain ⟨types, argsTyped, typed⟩ := bind_eq_ok_iff.mp typed
    obtain ⟨method, _, typed⟩ := bind_eq_ok_iff.mp typed
    obtain ⟨signature, resolved, typed⟩ := bind_eq_ok_iff.mp typed
    cases typed
    obtain ⟨sameArgs, sameReceiver⟩ := StringMethod.signature_lists resolved
    refine .inr ⟨rfl, signature, rfl, ?_, ?_⟩
    · rw [sameArgs]
      exact argTypesOf_typesAs argsTyped
    · rw [sameReceiver]
      exact .some (Expr.typesAs_of_nodeOf receiverTyped)
  | ifElse cond thenBranch elseBranch =>
    obtain ⟨_, _, _, _, _, _, _, _, _, _, unsigned⟩ := nodeOf_ifElse_ok typed
    exact .inl ⟨rfl, unsigned⟩

/-- Only masks and primitives are packed: a mask as it is, a primitive under a mask. -/
theorem resolve_pack {type : Ty} (resolved : resolve env .pack [type] = .ok signature) :
    (type.isMasked ∧ signature.result = type) ∨
      ∃ p, type = .primitive p ∧ signature.result = .masked (.primitive p) := by
  cases type with
  | masked value =>
    cases resolved
    exact .inl ⟨rfl, rfl⟩
  | primitive p =>
    cases resolved
    exact .inr ⟨p, rfl, rfl⟩
  | _ => cases resolved

def TypedFunction.typeAt? (ctx : Context) (function : TypedFunction) (node : NodeId) : Option Ty :=
  (function.nodeType? node).bind ctx.get?

def TypedFunction.signatureAt? (function : TypedFunction) (node : NodeId) : Option Signature :=
  function.signatures.lookup node

/-- The nodes of a typed function are those of its body, in order of completion. -/
structure TypedFunction.NumbersNodes (env : TypingEnv) (params : List Ty) (ctx : Context)
    (body : Expr) (function : TypedFunction) : Prop where
  size : function.nodes.length = body.size
  /-- A node has the type of the subexpression with its number. -/
  type : ∀ {id : NodeId} {e : Expr}, body.postorder[id]? = some e →
    ∃ type, function.typeAt? ctx id = some type ∧ e.TypesAs env params type
  /-- The nodes of a subexpression stand together, end at its root, and are what it records when
  it is typed by itself. -/
  block : ∀ {id : NodeId} {e : Expr}, body.postorder[id]? = some e → ∀ own : Context,
    ∃ front block back answer alone nodes, function.nodes = front ++ block ++ back ∧
      front.length + block.length = id + 1 ∧
      check env params e { context := own } = (.ok answer, alone) ∧
      block.mapM (·.resolve? ctx) = some nodes ∧
      alone.nodes.mapM (·.resolve? alone.context) = some nodes
  last : function.nodes.getLast?.map TypedNode.type = some function.body
  application : ∀ {id : NodeId} {e : Expr}, body.postorder[id]? = some e →
    (function.signatureAt? id).isSome = e.isApplication
  /-- No signature is kept under another number, and none is kept twice. -/
  keys : (function.signatures.map Prod.fst).Nodup ∧
    ∀ id ∈ function.signatures.map Prod.fst, id < body.size
  /-- A signature yields the node's type from the types of its operands. -/
  signature : ∀ {id : NodeId} {e : Expr} {signature : Signature}, body.postorder[id]? = some e →
    function.signatureAt? id = some signature →
    function.typeAt? ctx id = some signature.result ∧ signature.Describes env params e
  /-- A masked body is packed as it is and a primitive one under a mask; there is no other. -/
  packed : ∃ type, ctx.get? function.body = some type ∧
    ((type.isMasked ∧ ctx.get? function.result = some type) ∨
      ∃ p, type = .primitive p ∧ ctx.get? function.result = some (.masked (.primitive p)))

section Function

variable {function : TypedFunction} {type packed : Ty} {id : NodeId}

theorem TypedFunction.Shows.record_at (shown : function.Shows env params ctx body type packed)
    (found : body.postorder[id]? = some e) :
    ∃ node, nodeOf env params e = .ok node ∧ function.typeAt? ctx id = some node.type ∧
      function.signatureAt? id = node.signature := by
  obtain ⟨node, named, success, recorded, lookup⟩ := shown.node_at found
  refine ⟨node, success, ?_, ?_⟩
  · simp [TypedFunction.typeAt?, recorded, Context.get?_of_lookup? lookup]
  · rw [TypedFunction.signatureAt?, shown.signatures, lookup_signaturesFrom found]
    exact signatureOf_of_nodeOf success

private theorem check_alone (typed : nodeOf env params e = .ok node) (own : Context) :
    ∃ answer alone, check env params e { context := own } = (.ok answer, alone) ∧
      alone.nodes.mapM (·.resolve? alone.context) = some (nodesOf env params e.postorder) := by
  have elaborates : Check.Elaborates env params (check env params e) { context := own }
      (nodeOf env params e) Check.AnswersLast e.postorder := check_elaborates e _
  unfold Check.Elaborates at elaborates
  rw [typed] at elaborates
  obtain ⟨answer, alone, ran, _, extension⟩ := elaborates
  obtain ⟨added, same, shown⟩ := extension.nodeTypes
  refine ⟨answer, alone, ran, ?_⟩
  rw [Session.nodes, same, extension.signatures]
  simpa using resolve_nodes (TypedNode.list_shows shown)

theorem TypedFunction.Shows.block_at (shown : function.Shows env params ctx body type packed)
    (found : body.postorder[id]? = some e) :
    ∃ front block back, function.nodes = front ++ block ++ back ∧
      front.length + block.length = id + 1 ∧
      block.mapM (·.resolve? ctx) = some (nodesOf env params e.postorder) := by
  obtain ⟨before, after, layout, ends⟩ := Expr.postorder_block body found
  have nodes := shown.each_node
  rw [layout, List.append_assoc] at nodes
  have tail := List.forall₂_drop_append _ _ _ nodes
  have block := List.forall₂_take_append _ _ _ tail
  have total : before.length ≤ function.nodes.length := by
    rw [nodes.length_eq, List.length_append]
    exact Nat.le_add_right _ _
  refine ⟨function.nodes.take before.length, _,
    (function.nodes.drop before.length).drop e.postorder.length, ?_, ?_, resolve_nodes block⟩
  · rw [List.append_assoc, List.take_append_drop, List.take_append_drop]
  · rw [List.length_take_of_le total, block.length_eq]
    exact ends

theorem TypedFunction.Shows.last_node (shown : function.Shows env params ctx body type packed)
    (typed : typeOf env params body = .ok type) :
    function.nodes.getLast?.map TypedNode.type = some function.body := by
  have position : body.postorder[body.size - 1]? = some body := by
    rw [Expr.size, ← List.getLast?_eq_getElem?, Expr.postorder_eq]
    simp
  obtain ⟨node, named, success, found, lookup⟩ := shown.node_at position
  have same : node.type = type := Except.ok.inj ((typeOf_of_nodeOf success).symm.trans typed)
  rw [same, shown.body] at lookup
  cases lookup
  rw [List.getLast?_eq_getElem?, shown.each_node.length_eq, TypedFunction.nodes, TypedNode.list,
    List.getElem?_mapIdx, Option.map_map]
  simpa [TypedFunction.nodeType?, Expr.size] using found

theorem TypedFunction.Shows.signature_keys
    (shown : function.Shows env params ctx body type packed) :
    (function.signatures.map Prod.fst).Nodup ∧
      ∀ id ∈ function.signatures.map Prod.fst, id < body.size := by
  rw [shown.signatures]
  refine ⟨signaturesFrom_keys env params body.postorder, fun id member => ?_⟩
  obtain ⟨⟨node, signature⟩, entry, rfl⟩ := List.mem_map.mp member
  obtain ⟨e, found, _⟩ := mem_signaturesFrom_iff.mp entry
  exact (List.getElem?_eq_some_iff.mp found).1

theorem TypedFunction.Shows.signature_isSome
    (shown : function.Shows env params ctx body type packed)
    (found : body.postorder[id]? = some e) :
    (function.signatureAt? id).isSome = e.isApplication := by
  obtain ⟨node, success, _, recorded⟩ := shown.record_at found
  rw [recorded]
  rcases nodeOf_signature success with ⟨plain, none⟩ | ⟨applies, signature, rfl, _⟩
  · rw [plain, none]
    rfl
  · rw [applies]
    rfl

theorem TypedFunction.Shows.signature_describes
    (shown : function.Shows env params ctx body type packed)
    (found : body.postorder[id]? = some e) (signed : function.signatureAt? id = some signature) :
    function.typeAt? ctx id = some signature.result ∧ signature.Describes env params e := by
  obtain ⟨node, success, recorded, same⟩ := shown.record_at found
  rw [same] at signed
  rcases nodeOf_signature success with ⟨_, none⟩ | ⟨_, actual, rfl, describes⟩
  · cases none.symm.trans signed
  · cases signed
    exact ⟨recorded, describes⟩

end Function

theorem packedTypeOf_ok {type packed : Ty}
    (planned : packedTypeOf env params body = .ok (type, packed)) :
    typeOf env params body = .ok type ∧
      ((type.isMasked ∧ packed = type) ∨ ∃ p, type = .primitive p ∧
        packed = .masked (.primitive p)) := by
  obtain ⟨node, typed, planned⟩ := bind_eq_ok_iff.mp planned
  obtain ⟨signature, packs, planned⟩ := bind_eq_ok_iff.mp planned
  cases planned
  exact ⟨typeOf_of_nodeOf typed, resolve_pack packs⟩

/-- A typed function numbers the nodes of its body in order of completion, with their own types
and with signatures that describe their operands. -/
theorem inferFunction_numbers_nodes (env : TypingEnv) (ctx grown : Context) (params : List Ty)
    (body : Expr) (function : TypedFunction)
    (success : inferFunction env ctx params body = (.ok function, grown)) :
    function.NumbersNodes env params grown body := by
  obtain ⟨type, packed, planned, shown⟩ := inferFunction_planned success
  obtain ⟨typed, packs⟩ := packedTypeOf_ok planned
  have result := Context.get?_of_lookup? shown.result
  exact {
    size := shown.each_node.length_eq
    keys := shown.signature_keys
    type := by
      intro id e found
      obtain ⟨node, success, recorded, _⟩ := shown.record_at found
      exact ⟨node.type, recorded, Expr.typesAs_of_nodeOf success⟩
    block := by
      intro id e found own
      obtain ⟨node, success, _⟩ := shown.record_at found
      obtain ⟨front, block, back, split, ends, resolved⟩ := shown.block_at found
      obtain ⟨answer, alone, ran, same⟩ := check_alone success own
      exact ⟨front, block, back, answer, alone, _, split, ends, ran, resolved, same⟩
    last := shown.last_node typed
    application := shown.signature_isSome
    signature := shown.signature_describes
    packed := by
      refine ⟨type, Context.get?_of_lookup? shown.body, ?_⟩
      rcases packs with ⟨masked, rfl⟩ | ⟨p, primitive, rfl⟩
      · exact .inl ⟨masked, result⟩
      · exact .inr ⟨p, primitive, result⟩ }

/-- The place of a masked view in a text, or the length of the view where there is no text. -/
def placeOrLength : Expr :=
  .ifElse (.isNull (.param 0) .na) (.len (.param 1))
    (.call (.param 0) "find" [.masked (.param 1) (.literal (.bool true))])

/-- Eleven nodes; the call, finished after its receiver and its argument, is the last but one. -/
theorem placeOrLength_numbers_nodes :
    ∃ function grown,
      inferFunction ⟨.numeric, {}⟩ .initial [.maskedString, .stringView] placeOrLength =
        (.ok function, grown) ∧
      function.nodes.map TypedNode.type = [24, 0, 4, 1, 7, 24, 1, 4, 24, 7, 7] ∧
      function.signatureAt? 9 =
        some ⟨.primitive (.int .w32), [.maskedString], some .maskedString⟩ ∧
      function.NumbersNodes ⟨.numeric, {}⟩ [.maskedString, .stringView] grown placeOrLength := by
  have typed : inferFunction ⟨.numeric, {}⟩ .initial [.maskedString, .stringView] placeOrLength =
      (.ok
        { nodeTypes := [24, 0, 4, 1, 7, 24, 1, 4, 24, 7, 7]
          signatures :=
            [(9, ⟨.primitive (.int .w32), [.maskedString], some .maskedString⟩),
              (8, ⟨.maskedString, [.stringView, .bool], none⟩),
              (4, ⟨.primitive (.int .w32), [.stringView], none⟩),
              (2, ⟨.bool, [.maskedString, .null], none⟩)]
          conversions := [⟨6, 1, 2, .materialize⟩]
          body := 7
          result := 25 },
        Context.initial.internAll [.maskedString, .masked (.primitive (.int .w32))]) := by
    decide +kernel
  exact ⟨_, _, typed, rfl, rfl, inferFunction_numbers_nodes _ _ _ _ _ _ typed⟩

end RowTyping
