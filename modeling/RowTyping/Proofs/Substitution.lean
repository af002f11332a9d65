import RowTyping.Proofs.Composition
import RowTyping.Proofs.Elaboration
import RowTyping.Scalar.Promotion

namespace RowTyping

variable {env : TypingEnv} {params others : List Ty} {e : Expr} {type : Ty}

def Expr.Mentions (e : Expr) (index : Nat) : Prop := .param index ∈ e.postorder

/-- Under parameters that leave the types of its operands as they are, a node keeps its own. -/
theorem typeOf_of_children (own : ∀ index, e = .param index → params[index]? = others[index]?)
    (each : ∀ child ∈ e.children, TypesAlike env params others child child) :
    TypesAlike env params others e e := by
  unfold TypesAlike at each ⊢
  cases e with
  | literal value => rw [typeOf_literal, typeOf_literal]
  | param index => rw [typeOf_param, typeOf_param, own index rfl]
  | na => rw [typeOf_na, typeOf_na]
  | masked value valid =>
    rw [typeOf_masked, typeOf_masked, each value (by simp [Expr.children]),
      each valid (by simp [Expr.children])]
  | binary op left right =>
    rw [typeOf_binary, typeOf_binary, each left (by simp [Expr.children]),
      each right (by simp [Expr.children])]
  | unary op operand =>
    rw [typeOf_unary, typeOf_unary, each operand (by simp [Expr.children])]
  | isNull left right =>
    rw [typeOf_isNull, typeOf_isNull, each left (by simp [Expr.children]),
      each right (by simp [Expr.children])]
  | len operand => rw [typeOf_len, typeOf_len, each operand (by simp [Expr.children])]
  | attr base name => rw [typeOf_attr, typeOf_attr, each base (by simp [Expr.children])]
  | call receiver name args =>
    have arguments : List.Forall₂ (TypesAlike env params others) args args := by
      apply List.forall₂_same.mpr
      intro arg member
      exact each arg (by simp [Expr.children, member])
    rw [typeOf_call, typeOf_call, each receiver (by simp [Expr.children]),
      argTypesOf_alike arguments]
  | ifElse cond thenBranch elseBranch =>
    rw [typeOf_join, typeOf_join, each cond (by simp [Expr.children]),
      each thenBranch (by simp [Expr.children]), each elseBranch (by simp [Expr.children])]

/-- Only the parameters that occur in an expression matter to its type. -/
theorem typeOf_of_mentions
    (same : ∀ index, e.Mentions index → params[index]? = others[index]?) :
    TypesAlike env params others e e := by
  induction e using Expr.induct_children with
  | step e ih =>
    apply typeOf_of_children
    · rintro index rfl
      exact same index (by simp [Expr.Mentions, Expr.postorder])
    · intro child member
      apply ih child member
      intro index mentioned
      exact same index (Expr.mem_postorder_of_child member mentioned)

theorem typeOf_concat (fresh : ¬ e.Mentions params.length) :
    TypesAlike env params (params ++ [type]) e e := by
  apply typeOf_of_mentions
  intro index mentioned
  have different : index ≠ params.length := by
    rintro rfl
    exact fresh mentioned
  by_cases inside : index < params.length
  · rw [List.getElem?_append_left inside]
  · have beyond : params.length < index := by omega
    rw [List.getElem?_eq_none (by omega), List.getElem?_eq_none (by simp; omega)]

inductive Template where
  | hole
  | maskedValue (value : Template) (valid : Expr)
  | maskedValid (value : Expr) (valid : Template)
  | binaryLeft (op : BinaryOp) (left : Template) (right : Expr)
  | binaryRight (op : BinaryOp) (left : Expr) (right : Template)
  | unary (op : UnaryOp) (operand : Template)
  | isNullLeft (left : Template) (right : Expr)
  | isNullRight (left : Expr) (right : Template)
  | len (operand : Template)
  | attr (base : Template) (name : String)
  | callReceiver (receiver : Template) (method : String) (args : List Expr)
  | callArgument (receiver : Expr) (method : String) (front : List Expr) (arg : Template)
    (rest : List Expr)
  | branchCond (cond : Template) (thenBranch elseBranch : Expr)
  | branchThen (cond : Expr) (thenBranch : Template) (elseBranch : Expr)
  | branchElse (cond thenBranch : Expr) (elseBranch : Template)

namespace Template

variable {template : Template}

def fill (e : Expr) : Template → Expr
  | .hole => e
  | .maskedValue value valid => .masked (value.fill e) valid
  | .maskedValid value valid => .masked value (valid.fill e)
  | .binaryLeft op left right => .binary op (left.fill e) right
  | .binaryRight op left right => .binary op left (right.fill e)
  | .unary op operand => .unary op (operand.fill e)
  | .isNullLeft left right => .isNull (left.fill e) right
  | .isNullRight left right => .isNull left (right.fill e)
  | .len operand => .len (operand.fill e)
  | .attr base name => .attr (base.fill e) name
  | .callReceiver receiver method args => .call (receiver.fill e) method args
  | .callArgument receiver method front arg rest =>
    .call receiver method (front ++ arg.fill e :: rest)
  | .branchCond cond thenBranch elseBranch => .ifElse (cond.fill e) thenBranch elseBranch
  | .branchThen cond thenBranch elseBranch => .ifElse cond (thenBranch.fill e) elseBranch
  | .branchElse cond thenBranch elseBranch => .ifElse cond thenBranch (elseBranch.fill e)

def siblings : Template → List Expr
  | .hole => []
  | .maskedValue value valid => valid :: value.siblings
  | .maskedValid value valid => value :: valid.siblings
  | .binaryLeft _ left right | .isNullLeft left right => right :: left.siblings
  | .binaryRight _ left right | .isNullRight left right => left :: right.siblings
  | .unary _ operand | .len operand => operand.siblings
  | .attr base _ => base.siblings
  | .callReceiver receiver _ args => args ++ receiver.siblings
  | .callArgument receiver _ front arg rest => receiver :: (front ++ rest) ++ arg.siblings
  | .branchCond cond thenBranch elseBranch => thenBranch :: elseBranch :: cond.siblings
  | .branchThen cond thenBranch elseBranch => cond :: elseBranch :: thenBranch.siblings
  | .branchElse cond thenBranch elseBranch => cond :: thenBranch :: elseBranch.siblings

def Avoids (template : Template) (index : Nat) : Prop :=
  ∀ e ∈ template.siblings, ¬ e.Mentions index

/-- A filled template depends on what fills it, and on the expressions around the hole, through
their types alone. -/
theorem typesAlike_fill {first second : Expr} (filled : TypesAlike env params others first second)
    (around : ∀ e ∈ template.siblings, TypesAlike env params others e e) :
    TypesAlike env params others (template.fill first) (template.fill second) := by
  unfold TypesAlike at *
  induction template with
  | hole => exact filled
  | maskedValue value valid ih =>
    obtain ⟨sibling, around⟩ := List.forall_mem_cons.mp around
    rw [fill, fill, typeOf_masked, typeOf_masked, ih around, sibling]
  | maskedValid value valid ih =>
    obtain ⟨sibling, around⟩ := List.forall_mem_cons.mp around
    rw [fill, fill, typeOf_masked, typeOf_masked, ih around, sibling]
  | binaryLeft op left right ih =>
    obtain ⟨sibling, around⟩ := List.forall_mem_cons.mp around
    rw [fill, fill, typeOf_binary, typeOf_binary, ih around, sibling]
  | binaryRight op left right ih =>
    obtain ⟨sibling, around⟩ := List.forall_mem_cons.mp around
    rw [fill, fill, typeOf_binary, typeOf_binary, ih around, sibling]
  | unary op operand ih => rw [fill, fill, typeOf_unary, typeOf_unary, ih around]
  | isNullLeft left right ih =>
    obtain ⟨sibling, around⟩ := List.forall_mem_cons.mp around
    rw [fill, fill, typeOf_isNull, typeOf_isNull, ih around, sibling]
  | isNullRight left right ih =>
    obtain ⟨sibling, around⟩ := List.forall_mem_cons.mp around
    rw [fill, fill, typeOf_isNull, typeOf_isNull, ih around, sibling]
  | len operand ih => rw [fill, fill, typeOf_len, typeOf_len, ih around]
  | attr base name ih => rw [fill, fill, typeOf_attr, typeOf_attr, ih around]
  | callReceiver receiver method args ih =>
    obtain ⟨arguments, around⟩ := List.forall_mem_append.mp around
    rw [fill, fill, typeOf_call, typeOf_call, ih around,
      argTypesOf_alike (List.forall₂_same.mpr arguments)]
  | callArgument receiver method front arg rest ih =>
    obtain ⟨siblings, around⟩ := List.forall_mem_append.mp around
    obtain ⟨sibling, arguments⟩ := List.forall_mem_cons.mp siblings
    obtain ⟨before, after⟩ := List.forall_mem_append.mp arguments
    have arguments : List.Forall₂ (TypesAlike env params others) (front ++ arg.fill first :: rest)
        (front ++ arg.fill second :: rest) :=
      List.rel_append (List.forall₂_same.mpr before)
        (.cons (ih around) (List.forall₂_same.mpr after))
    rw [fill, fill, typeOf_call, typeOf_call, sibling, argTypesOf_alike arguments]
  | branchCond cond thenBranch elseBranch ih =>
    obtain ⟨onThen, around⟩ := List.forall_mem_cons.mp around
    obtain ⟨onElse, around⟩ := List.forall_mem_cons.mp around
    rw [fill, fill, typeOf_join, typeOf_join, ih around, onThen, onElse]
  | branchThen cond thenBranch elseBranch ih =>
    obtain ⟨onCond, around⟩ := List.forall_mem_cons.mp around
    obtain ⟨onElse, around⟩ := List.forall_mem_cons.mp around
    rw [fill, fill, typeOf_join, typeOf_join, onCond, ih around, onElse]
  | branchElse cond thenBranch elseBranch ih =>
    obtain ⟨onCond, around⟩ := List.forall_mem_cons.mp around
    obtain ⟨onThen, around⟩ := List.forall_mem_cons.mp around
    rw [fill, fill, typeOf_join, typeOf_join, onCond, onThen, ih around]

/-- A typed expression may be replaced by a fresh parameter of its type. -/
theorem typesAlike_param {replaced : Expr} (typed : typeOf env params replaced = .ok type)
    (fresh : template.Avoids params.length) :
    TypesAlike env params (params ++ [type]) (template.fill replaced)
      (template.fill (.param params.length)) := by
  apply typesAlike_fill
  · unfold TypesAlike
    rw [typed, typeOf_param, List.getElem?_concat_length]
  · intro e member
    exact typeOf_concat (fresh e member)

end Template

/-- Both functions are typed, with the same types of the body and of the packed result, or both
fail in the same way. -/
def AgreeOnOutcome (first second : Except TypeError TypedFunction × Context) : Prop :=
  AgreeOnTypes first second ∧ ∀ failure, first.1 = .error failure ↔ second.1 = .error failure

theorem inferFunction_error_iff {ctx : Context} {body : Expr} {failure : TypeError} :
    (inferFunction env ctx params body).1 = .error failure ↔
      packedTypeOf env params body = .error failure := by
  constructor
  · intro failed
    cases outcome : packedTypeOf env params body with
    | error actual =>
      obtain ⟨_, ran⟩ := inferFunction_error outcome ctx
      rw [ran] at failed
      cases failed
      rfl
    | ok types =>
      obtain ⟨_, _, ran, _⟩ := inferFunction_ok outcome ctx
      rw [ran] at failed
      cases failed
  · intro failed
    obtain ⟨_, ran⟩ := inferFunction_error failed ctx
    rw [ran]

theorem TypesAlike.inferFunction {first second : Expr}
    (alike : TypesAlike env params others first second) (ctx ctx' : Context) :
    AgreeOnOutcome (inferFunction env ctx params first) (inferFunction env ctx' others second) := by
  have packed : packedTypeOf env params first = packedTypeOf env others second := by
    rw [packedTypeOf_eq, packedTypeOf_eq, alike]
  constructor
  · apply inferFunction_agree
    rw [packed]
    exact Matches.refl fun _ => rfl
  · intro failure
    rw [inferFunction_error_iff, inferFunction_error_iff, packed]

/-- Whatever the contexts, a body in which an expression is replaced by a fresh parameter of its
type is typed as the body itself, or fails as it does. -/
theorem inferFunction_substitution (env : TypingEnv) (params : List Ty) (replaced : Expr)
    (session : Session) (node : NodeId) (type : Ty)
    (typed : (check env params replaced session).1 = .ok (node, type)) (template : Template)
    (fresh : template.Avoids params.length) (ctx ctx' : Context) :
    AgreeOnOutcome (inferFunction env ctx params (template.fill replaced))
      (inferFunction env ctx' (params ++ [type]) (template.fill (.param params.length))) := by
  have ofType : typeOf env params replaced = .ok type := by
    rw [← check_type replaced session, typed]
    rfl
  exact (Template.typesAlike_param ofType fresh).inferFunction ctx ctx'

/-- The place of some text, masked as valid, in the text of a parameter. -/
def placeInText : Template :=
  .branchElse (.isNull (.param 0) .na) (.literal (.int 0))
    (.callArgument (.param 0) "find" [] (.maskedValue .hole (.literal (.bool true))) [])

theorem placeInText_substitution :
    (check ⟨.numeric, {}⟩ [.maskedString] (.attr (.param 0) "value")
        { context := .initial }).1 = .ok (1, .ownedString) ∧
      placeInText.Avoids 1 ∧
      (inferFunction ⟨.numeric, {}⟩ .initial [.maskedString]
        (placeInText.fill (.attr (.param 0) "value"))).1.isOk ∧
      AgreeOnOutcome
        (inferFunction ⟨.numeric, {}⟩ .initial [.maskedString]
          (placeInText.fill (.attr (.param 0) "value")))
        (inferFunction ⟨.numeric, {}⟩ .initial [.maskedString, .ownedString]
          (placeInText.fill (.param 1))) := by
  have typed : (check ⟨.numeric, {}⟩ [.maskedString] (.attr (.param 0) "value")
      { context := .initial }).1 = .ok (1, .ownedString) := by decide +kernel
  have fresh : placeInText.Avoids 1 := by
    simp [Template.Avoids, placeInText, Template.siblings, Expr.Mentions, Expr.postorder]
  exact ⟨typed, fresh, by decide +kernel,
    inferFunction_substitution _ _ _ _ _ _ typed _ fresh _ _⟩

end RowTyping
