import RowTyping.Proofs.Elaboration
import RowTyping.Proofs.Join

namespace RowTyping

/-- Whether the value of an expression may be missing. A test against `NA`, an attribute and
a method that yields no text are always present. -/
def Expr.isNullable (params : List Ty) : Expr → Bool
  | .literal _ => false
  | .param index => params[index]?.any Ty.isNullable
  | .na | .masked _ _ => true
  | .binary _ left right => left.isNullable params || right.isNullable params
  | .unary _ operand | .len operand => operand.isNullable params
  | .isNull _ _ | .attr _ _ => false
  | .call _ method _ => method = "upper" || method = "lower"
  | .ifElse _ thenBranch elseBranch => thenBranch.isNullable params || elseBranch.isNullable params

variable {settings : Settings} {params : List Ty} {a b : Ty} {signature : Signature}

private theorem liftedSignature_isNullable {failure : TypeError}
    (primitive : ∀ ty, value = some ty → ∃ p, ty = .primitive p)
    (success : liftedSignatureOr failure operands masked value = .ok signature) :
    signature.result.isNullable = masked := by
  cases value with
  | none => cases success
  | some ty =>
    obtain ⟨p, rfl⟩ := primitive ty rfl
    simp only [liftedSignatureOr, Ty.lift_primitive] at success
    cases success
    cases masked <;> rfl

private theorem resolve_binary_isNullable
    (resolved : resolve ⟨.numeric, settings⟩ (.binary op) [a, b] = .ok signature) :
    signature.result.isNullable = (a.isNullable || b.isNullable) := by
  by_cases missing : a = .null ∨ b = .null
  · have masked := resolve_binary_null missing resolved
    rcases missing with rfl | rfl <;> simp [Ty.isNullable, Ty.isNull, masked]
  · obtain ⟨left, right⟩ := not_or.mp missing
    rw [resolve_binary left right] at resolved
    rw [Ty.isNullable_of_ne_null left, Ty.isNullable_of_ne_null right]
    exact liftedSignature_isNullable (fun _ => binaryValue?_primitive) resolved

private theorem resolve_unary_isNullable
    (resolved : resolve ⟨.numeric, settings⟩ (.unary op) [a] = .ok signature) :
    signature.result.isNullable = a.isNullable := by
  have present : a ≠ .null := by
    rintro rfl
    cases resolved
  rw [resolve_unary] at resolved
  rw [Ty.isNullable_of_ne_null present]
  exact liftedSignature_isNullable (fun _ => unaryValue?_primitive) resolved

private theorem resolve_len_isNullable (resolved : resolve env .len [a] = .ok signature) :
    signature.result.isNullable = a.isNullable := by
  have present : a ≠ .null := by
    rintro rfl
    cases resolved
  rw [resolve_len] at resolved
  rw [Ty.isNullable_of_ne_null present]
  split at resolved
  · cases resolved
  · exact liftedSignature_isNullable (fun _ => lengthValue?_primitive) resolved

private theorem resolve_isNull_isNullable (resolved : resolve env .isNull [a, b] = .ok signature) :
    signature.result.isNullable = false := by
  cases a <;> cases b <;> cases resolved <;> rfl

private theorem mask_isNullable {operands : List Ty}
    (success : (a.mask.map fun result => (⟨result, operands, none⟩ : Signature)) =
      .ok signature) : signature.result.isNullable := by
  cases covered : a.mask with
  | error failure =>
    rw [covered] at success
    cases success
  | ok ty =>
    rw [covered] at success
    cases success
    exact Ty.isNullable_of_mask covered

private theorem resolve_construct_isNullable
    (resolved : resolve env .construct [a, b] = .ok signature) :
    signature.result.isNullable := by
  have applied := resolve_construct resolved
  unfold Rule.constructSignature at applied
  split at applied
  · cases applied
  · split at applied
    · split at applied
      · exact mask_isNullable applied
      · cases applied
    · exact mask_isNullable applied

private theorem Attribute.resolve_member
    (found : Attribute.resolve env a name = .ok (.member type)) :
    ∃ value : MaskedValue, type = value.type := by
  unfold Attribute.resolve at found
  split at found
  · split at found
    · cases found
      exact ⟨_, rfl⟩
    · cases found
      exact ⟨.primitive .bool, rfl⟩
    · split at found
      next method _ =>
        split at found
        · cases allowed : env.requireStrings method.name with
          | error failure =>
            rw [allowed] at found
            cases found
          | ok =>
            rw [allowed] at found
            cases found
        · cases found
      next => cases found
  · cases found

private theorem memberType_isNullable (typed : memberType env a name = .ok type) :
    type.isNullable = false := by
  obtain ⟨answer, found, typed⟩ := bind_eq_ok_iff.mp typed
  cases answer with
  | method bound => cases typed
  | member type =>
    cases typed
    obtain ⟨value, rfl⟩ := Attribute.resolve_member found
    cases value <;> rfl

private theorem calledMethod_name (called : calledMethod env a name = .ok method) :
    method.name = name := by
  have found := calledMethod_eq_ok_iff.mp called
  obtain ⟨_, named, _⟩ := Attribute.resolve_eq_method_iff.mp found
  exact StringMethod.ofName?_eq_some_iff.mp named

private theorem StringMethod.signature_result {method : StringMethod}
    (typed : method.signature env a args = .ok signature) :
    signature.result = method.result := by
  obtain ⟨_, _, _, rfl⟩ := StringMethod.signature_eq_ok_iff.mp typed
  rfl

/-- The methods that yield text yield masked text. -/
theorem StringMethod.result_isNullable (method : StringMethod) :
    method.result.isNullable = (method.name = "upper" || method.name = "lower") := by
  cases method <;> rfl

theorem nodeOf_isNullable (typed : nodeOf ⟨.numeric, settings⟩ params e = .ok node) :
    node.type.isNullable = e.isNullable params := by
  induction e generalizing node with
  | literal value =>
    rw [nodeOf] at typed
    cases typed
    cases value <;> rfl
  | param index =>
    rw [nodeOf] at typed
    cases found : params[index]? with
    | none =>
      rw [found] at typed
      cases typed
    | some type =>
      rw [found] at typed
      cases typed
      simp [Expr.isNullable, found]
  | na =>
    rw [nodeOf] at typed
    cases typed
    rfl
  | masked value valid =>
    rw [nodeOf] at typed
    obtain ⟨_, _, signature, _, _, resolved, rfl⟩ := resolveTwo_ok typed
    exact resolve_construct_isNullable resolved
  | binary op left right ihLeft ihRight =>
    rw [nodeOf] at typed
    obtain ⟨_, _, signature, leftTyped, rightTyped, resolved, rfl⟩ := resolveTwo_ok typed
    rw [Expr.isNullable, ← ihLeft leftTyped, ← ihRight rightTyped]
    exact resolve_binary_isNullable resolved
  | unary op operand ih =>
    rw [nodeOf] at typed
    obtain ⟨_, signature, operandTyped, resolved, rfl⟩ := resolveOne_ok typed
    rw [Expr.isNullable, ← ih operandTyped]
    exact resolve_unary_isNullable resolved
  | isNull left right =>
    rw [nodeOf] at typed
    obtain ⟨_, _, signature, _, _, resolved, rfl⟩ := resolveTwo_ok typed
    exact resolve_isNull_isNullable resolved
  | len operand ih =>
    rw [nodeOf] at typed
    obtain ⟨_, signature, operandTyped, resolved, rfl⟩ := resolveOne_ok typed
    rw [Expr.isNullable, ← ih operandTyped]
    exact resolve_len_isNullable resolved
  | attr base name =>
    rw [nodeOf] at typed
    obtain ⟨_, _, typed⟩ := bind_eq_ok_iff.mp typed
    obtain ⟨type, member, typed⟩ := bind_eq_ok_iff.mp typed
    cases typed
    exact memberType_isNullable member
  | call receiver name args =>
    rw [nodeOf] at typed
    obtain ⟨_, _, typed⟩ := bind_eq_ok_iff.mp typed
    obtain ⟨_, _, typed⟩ := bind_eq_ok_iff.mp typed
    obtain ⟨method, called, typed⟩ := bind_eq_ok_iff.mp typed
    obtain ⟨signature, resolved, typed⟩ := bind_eq_ok_iff.mp typed
    cases typed
    rw [Expr.isNullable, ← calledMethod_name called, ← StringMethod.result_isNullable,
      ← StringMethod.signature_result resolved]
    rfl
  | ifElse cond thenBranch elseBranch ihCond ihThen ihElse =>
    obtain ⟨_, _, _, _, _, thenTyped, elseTyped, joins, _, _⟩ := nodeOf_ifElse_ok typed
    rw [Expr.isNullable, ← ihThen thenTyped, ← ihElse elseTyped]
    exact Ty.unify_isNullable joins

/-- A typed expression may be missing exactly where its syntax says so. -/
theorem check_isNullable_iff (settings : Settings) (params : List Ty) (e : Expr)
    (session : Session) (node : NodeId) (type : Ty)
    (typed : (check ⟨.numeric, settings⟩ params e session).1 = .ok (node, type)) :
    (type.isMasked ∨ type = .null) ↔ e.isNullable params := by
  have ofType : typeOf ⟨.numeric, settings⟩ params e = .ok type := by
    rw [← check_type e session, typed]
    rfl
  obtain ⟨root, rooted, rfl⟩ := typeOf_eq_ok_iff.mp ofType
  rw [← nodeOf_isNullable rooted, Ty.isNullable_iff]

/-- The text of a parameter in capitals where it is present, and a constant where it is not. -/
def upperOrDefault : Expr :=
  .ifElse (.isNull (.param 0) .na) (.literal (.string "none")) (.call (.param 0) "upper" [])

theorem upperOrDefault_isNullable :
    (check ⟨.numeric, {}⟩ [.maskedString] upperOrDefault { context := .initial }).1 =
        .ok (6, .maskedString) ∧
      ((Ty.maskedString.isMasked ∨ Ty.maskedString = .null) ↔
        upperOrDefault.isNullable [.maskedString]) := by
  have typed : (check ⟨.numeric, {}⟩ [.maskedString] upperOrDefault { context := .initial }).1 =
      .ok (6, .maskedString) := by decide +kernel
  exact ⟨typed, check_isNullable_iff _ _ _ _ _ _ typed⟩

end RowTyping
