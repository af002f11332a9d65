import RowTyping.Proofs.Elaboration
import RowTyping.Proofs.Join

/-! Which failures typing has by numeric promotion. Both branches convert to a join that has a
type, so no body fails in a cast, and a mask is refused only where `NA` meets a branch whose
type no mask covers. -/

namespace RowTyping

variable {settings : Settings} {env : TypingEnv} {params : List Ty} {a b ty : Ty}
  {failure : TypeError}

/-- A computation fails only in the allowed ways. -/
def FailsOnly (allowed : TypeError → Prop) (outcome : Except TypeError α) : Prop :=
  ∀ failure, outcome = .error failure → allowed failure

theorem FailsOnly.ok (answer : α) : FailsOnly allowed (.ok answer) := by
  intro failure failed
  cases failed

theorem FailsOnly.error (permitted : allowed failure) :
    FailsOnly allowed (.error failure : Except TypeError α) := by
  intro other failed
  cases failed
  exact permitted

theorem FailsOnly.imp {outcome : Except TypeError α} (fails : FailsOnly allowed outcome)
    (weaker : ∀ failure, allowed failure → other failure) : FailsOnly other outcome := by
  intro failure failed
  exact weaker failure (fails failure failed)

theorem FailsOnly.map {outcome : Except TypeError α} (fails : FailsOnly allowed outcome)
    (f : α → β) : FailsOnly allowed (outcome.map f) := by
  intro failure failed
  cases outcome with
  | error actual =>
    cases failed
    exact fails _ rfl
  | ok answer => cases failed

theorem FailsOnly.bind {first : Except TypeError α} {next : α → Except TypeError β}
    (start : FailsOnly allowed first)
    (rest : ∀ answer, first = .ok answer → FailsOnly allowed (next answer)) :
    FailsOnly allowed (first >>= next) := by
  intro failure failed
  cases first with
  | error actual =>
    cases failed
    exact start _ rfl
  | ok answer => exact rest answer rfl failure failed

/-- A misuse of an operation, a member, a parameter or a result, or two branches without a
common type. The other failures belong to masks, conversions and the reading of names. -/
def TypeError.isMisuse : TypeError → Bool
  | .unsupportedValue _ | .incompatibleCast _ _ | .unreadable _ _ => false
  | _ => true

abbrev Misuses (outcome : Except TypeError α) : Prop := FailsOnly (·.isMisuse) outcome

private theorem Operation.decline_isMisuse (operation : Operation) (operands : List Ty) :
    (operation.decline operands).isMisuse := by
  unfold decline
  split <;> rfl

private theorem TypingEnv.requireStrings_misuses (env : TypingEnv) (operation : String) :
    Misuses (env.requireStrings operation) := by
  unfold requireStrings
  split
  · exact .ok _
  · exact .error rfl

namespace Rule

private theorem signatureOr_misuses (declined : failure.isMisuse) (operands : List Ty)
    (value : Option Ty) :
    Misuses (signatureOr failure operands value) := by
  cases value with
  | none => exact .error declined
  | some result => exact .ok _

private theorem maskedSignatureOr_misuses (declined : failure.isMisuse) (operands : List Ty)
    (primitive : ∀ ty, value = some ty → ∃ p, ty = .primitive p) :
    Misuses (maskedSignatureOr failure operands value) := by
  cases value with
  | none => exact .error declined
  | some ty =>
    obtain ⟨p, rfl⟩ := primitive ty rfl
    exact .ok _

private theorem constructSignature_misuses (covered : a.mask = .ok ty) (operation : Operation)
    (valid : Ty) : Misuses (constructSignature env operation a valid) := by
  have masked (operands : List Ty) :
      Misuses (a.mask.map fun result => (⟨result, operands, none⟩ : Signature)) := by
    rw [covered]
    exact .ok _
  unfold constructSignature
  split
  · exact .error rfl
  · split
    · split
      · exact masked _
      · exact .error rfl
    · exact masked _

private theorem primitive_of_find? (found : find? operation (.one a.kind) = some .packValue) :
    ∃ p, a = .primitive p := by
  cases a with
  | primitive p => exact ⟨p, rfl⟩
  | _ => cases operation <;> cases found

private theorem mask_of_find? (found : find? operation (.two a.kind b.kind) = some .construct) :
    ∃ ty, a.mask = .ok ty := by
  cases a with
  | primitive p => exact ⟨.masked (.primitive p), rfl⟩
  | stringView | ownedString => exact ⟨.maskedString, rfl⟩
  | _ => cases operation <;> cases b <;> cases found

/-- A rule that the table gives for the operands never tries a mask that is refused. -/
theorem apply_misuses (shape : Pattern.ofOperands? operands = some pattern)
    (found : find? operation pattern = some rule) :
    Misuses (rule.apply ⟨.numeric, settings⟩ operation operands) := by
  have declined := operation.decline_isMisuse operands
  unfold apply
  dsimp only
  split
  · exact maskedSignatureOr_misuses declined _ fun _ => ScalarTyping.numeric_binary_primitive
  · exact signatureOr_misuses declined _ _
  · exact maskedSignatureOr_misuses declined _ fun _ => ScalarTyping.numeric_binary_primitive
  · exact signatureOr_misuses declined _ _
  · exact maskedSignatureOr_misuses declined _ fun _ => ScalarTyping.numeric_unary_primitive
  · exact signatureOr_misuses declined _ _
  · exact .ok _
  · exact .ok _
  · exact .ok _
  · exact .ok _
  · -- Packing masks the operand itself, which the table restricts to primitives.
    cases shape
    obtain ⟨p, rfl⟩ := primitive_of_find? found
    exact .ok _
  · cases shape
    obtain ⟨masked, covered⟩ := mask_of_find? found
    exact constructSignature_misuses covered operation _
  · exact (TypingEnv.requireStrings_misuses _ _).map _
  · exact .error rfl
  · exact .ok _
  · exact .error declined

end Rule

/-- Operations refuse their operands; they never ask for a mask that cannot be made. -/
theorem resolve_misuses (settings : Settings) (operation : Operation) (operands : List Ty) :
    Misuses (resolve ⟨.numeric, settings⟩ operation operands) := by
  unfold resolve
  split
  next rule found =>
    obtain ⟨pattern, shape, found⟩ := Option.bind_eq_some_iff.mp found
    exact Rule.apply_misuses shape found
  next => exact .error (operation.decline_isMisuse operands)

theorem Attribute.resolve_misuses (env : TypingEnv) (receiver : Ty) (name : String) :
    Misuses (Attribute.resolve env receiver name) := by
  unfold Attribute.resolve
  dsimp only
  split
  · split
    · exact .ok _
    · exact .ok _
    · split
      · split
        · exact (env.requireStrings_misuses _).map _
        · exact .error rfl
      · exact .error rfl
  · exact .error rfl

private theorem memberType_misuses (env : TypingEnv) (receiver : Ty) (name : String) :
    Misuses (memberType env receiver name) := by
  refine (Attribute.resolve_misuses env receiver name).bind fun found _ => ?_
  cases found with
  | member type => exact .ok _
  | method method => exact .error rfl

private theorem calledMethod_misuses (env : TypingEnv) (receiver : Ty) (name : String) :
    Misuses (calledMethod env receiver name) := by
  refine (Attribute.resolve_misuses env receiver name).bind fun found _ => ?_
  cases found with
  | member type => exact .error rfl
  | method method => exact .ok _

private theorem StringMethod.signature_misuses (env : TypingEnv) (method : StringMethod)
    (receiver : Ty)
    (args : List Ty) : Misuses (method.signature env receiver args) := by
  have allowed := env.requireStrings_misuses method.name
  unfold StringMethod.signature
  split
  · exact .error rfl
  · split
    next failure failed => exact .error (allowed failure failed)
    next =>
      split
      · exact .error rfl
      · split
        · exact .error rfl
        · exact .ok _

/-- Whether no mask covers the type although it is not nullable itself. -/
def Ty.isUncovered : Ty → Bool
  | .stringLiteral | .external _ => true
  | _ => false

theorem Ty.mask_fails (present : a.isNullable = false) :
    FailsOnly (fun failure => a.isUncovered ∧ failure = .unsupportedValue a.name) a.mask := by
  intro failure failed
  cases a with
  | stringLiteral | external =>
    cases failed
    exact ⟨rfl, rfl⟩
  | masked | null => cases present
  | _ => cases failed

/-- A join reports types without a common one, or the type that no mask covers opposite `NA`. -/
theorem Ty.unify_fails (a b : Ty) :
    FailsOnly (fun failure => failure.isMisuse ∨
        ∃ other : Ty, other.isUncovered ∧ failure = .unsupportedValue other.name ∧
          (a = .null ∧ b = other ∨ a = other ∧ b = .null))
      (unify .numeric a b) := by
  by_cases left : a = .null
  · subst left
    rw [unify_null_left]
    split
    · exact .ok _
    · next bare =>
      refine (mask_fails (by simpa using bare)).imp fun failure blamed => ?_
      exact .inr ⟨b, blamed.1, blamed.2, .inl ⟨rfl, rfl⟩⟩
  by_cases right : b = .null
  · subst right
    rw [unify_null_right]
    split
    · exact .ok _
    · next bare =>
      refine (mask_fails (by simpa using bare)).imp fun failure blamed => ?_
      exact .inr ⟨a, blamed.1, blamed.2, .inr ⟨rfl, rfl⟩⟩
  rw [unify_eq_lift ScalarTyping.numeric_symmetric left right]
  split
  next scalarJoin =>
    obtain ⟨joined, lifted, _⟩ := lift_join left scalarJoin
    rw [lifted]
    exact .ok _
  next => exact .error (.inl rfl)

/-- A join of `NA` with a branch of the given type, which no mask covers. -/
def Expr.JoinsUncovered (env : TypingEnv) (params : List Ty) (e : Expr) (ty : Ty) : Prop :=
  ∃ cond thenBranch elseBranch, e = .ifElse cond thenBranch elseBranch ∧ ty.isUncovered ∧
    (thenBranch.TypesAs env params .null ∧ elseBranch.TypesAs env params ty ∨
      thenBranch.TypesAs env params ty ∧ elseBranch.TypesAs env params .null)

/-- The failures of an expression: a misuse, or a join in it at which a mask is refused. -/
def Expr.Blames (env : TypingEnv) (params : List Ty) (e : Expr) (failure : TypeError) : Prop :=
  failure.isMisuse ∨
    ∃ sub ∈ e.postorder, ∃ ty, sub.JoinsUncovered env params ty ∧
      failure = .unsupportedValue ty.name

theorem FailsOnly.operand {e child : Expr} (member : child ∈ e.children)
    {outcome : Except TypeError α} (fails : FailsOnly (child.Blames env params) outcome) :
    FailsOnly (e.Blames env params) outcome := by
  refine fails.imp fun failure blamed => ?_
  rcases blamed with misuse | ⟨sub, inside, ty, joins, same⟩
  · exact .inl misuse
  · exact .inr ⟨sub, Expr.mem_postorder_of_child member inside, ty, joins, same⟩

theorem Misuses.blames {outcome : Except TypeError α} (fails : Misuses outcome) (e : Expr) :
    FailsOnly (e.Blames env params) outcome :=
  fails.imp fun _ misuse => .inl misuse

private theorem applied_blames (operation : Operation) (operands : List Ty) (e : Expr) :
    FailsOnly (e.Blames ⟨.numeric, settings⟩ params) (do
      let signature ← resolve ⟨.numeric, settings⟩ operation operands
      return Node.applying signature) :=
  ((resolve_misuses settings operation operands).blames e).bind fun _ _ => .ok _

private theorem argTypesOf_blames {e : Expr} {args : List Expr}
    (each : ∀ arg ∈ args, FailsOnly (e.Blames env params) (nodeOf env params arg)) :
    FailsOnly (e.Blames env params) (argTypesOf env params args) := by
  induction args with
  | nil => exact .ok _
  | cons arg rest ih =>
    rw [argTypesOf]
    refine (each arg (by simp)).bind fun node _ => ?_
    have later := ih fun other member => each other (by simp [member])
    exact later.bind fun types _ => .ok _

/-- A join blames its own branches, and it never fails in a conversion. -/
private theorem join_blames {cond thenBranch elseBranch : Expr} {thenNode elseNode : Node}
    (thenTyped : nodeOf ⟨.numeric, settings⟩ params thenBranch = .ok thenNode)
    (elseTyped : nodeOf ⟨.numeric, settings⟩ params elseBranch = .ok elseNode) :
    FailsOnly ((Expr.ifElse cond thenBranch elseBranch).Blames ⟨.numeric, settings⟩ params) (do
      let joined ← Ty.unify .numeric thenNode.type elseNode.type
      let _ ← Conversion.classify .numeric thenNode.type joined
      let _ ← Conversion.classify .numeric elseNode.type joined
      return ({ type := joined } : Node)) := by
  have thenTypes := Expr.typesAs_of_nodeOf thenTyped
  have elseTypes := Expr.typesAs_of_nodeOf elseTyped
  refine FailsOnly.bind ?_ fun joined joins => ?_
  · refine (Ty.unify_fails _ _).imp fun failure blamed => ?_
    rcases blamed with misuse | ⟨other, uncovered, same, sides⟩
    · exact .inl misuse
    · refine .inr ⟨.ifElse cond thenBranch elseBranch, by simp [Expr.postorder], other, ?_, same⟩
      refine ⟨cond, thenBranch, elseBranch, rfl, uncovered, ?_⟩
      rcases sides with ⟨first, second⟩ | ⟨first, second⟩
      · exact .inl ⟨first ▸ thenTypes, second ▸ elseTypes⟩
      · exact .inr ⟨first ▸ thenTypes, second ▸ elseTypes⟩
  · obtain ⟨thenWay, thenOk⟩ := Ty.unify_classify_left joins
    obtain ⟨elseWay, elseOk⟩ := Ty.unify_classify_right joins
    rw [thenOk, elseOk]
    exact .ok _

theorem nodeOf_blames (settings : Settings) (params : List Ty) (e : Expr) :
    FailsOnly (e.Blames ⟨.numeric, settings⟩ params) (nodeOf ⟨.numeric, settings⟩ params e) := by
  induction e with
  | literal value =>
    rw [nodeOf]
    exact .ok _
  | param index =>
    rw [nodeOf]
    split
    · exact .ok _
    · exact .error (.inl rfl)
  | na =>
    rw [nodeOf]
    exact .ok _
  | masked value valid ihValue ihValid =>
    rw [nodeOf]
    refine (ihValue.operand (by simp [Expr.children])).bind fun valueNode _ => ?_
    refine (ihValid.operand (by simp [Expr.children])).bind fun validNode _ => ?_
    exact applied_blames _ _ _
  | binary op left right ihLeft ihRight =>
    rw [nodeOf]
    refine (ihLeft.operand (by simp [Expr.children])).bind fun leftNode _ => ?_
    refine (ihRight.operand (by simp [Expr.children])).bind fun rightNode _ => ?_
    exact applied_blames _ _ _
  | unary op operand ih =>
    rw [nodeOf]
    refine (ih.operand (by simp [Expr.children])).bind fun node _ => ?_
    exact applied_blames _ _ _
  | isNull left right ihLeft ihRight =>
    rw [nodeOf]
    refine (ihLeft.operand (by simp [Expr.children])).bind fun leftNode _ => ?_
    refine (ihRight.operand (by simp [Expr.children])).bind fun rightNode _ => ?_
    exact applied_blames _ _ _
  | len operand ih =>
    rw [nodeOf]
    refine (ih.operand (by simp [Expr.children])).bind fun node _ => ?_
    exact applied_blames _ _ _
  | attr base name ih =>
    rw [nodeOf]
    refine (ih.operand (by simp [Expr.children])).bind fun node _ => ?_
    exact ((memberType_misuses _ _ _).blames _).bind fun type _ => .ok _
  | call receiver name args ihReceiver ihArgs =>
    rw [nodeOf]
    refine (ihReceiver.operand (by simp [Expr.children])).bind fun node _ => ?_
    have each : ∀ arg ∈ args, FailsOnly
        ((Expr.call receiver name args).Blames ⟨.numeric, settings⟩ params)
        (nodeOf ⟨.numeric, settings⟩ params arg) := by
      intro arg member
      exact (ihArgs arg member).operand (by simp [Expr.children, member])
    refine (argTypesOf_blames each).bind fun types _ => ?_
    refine ((calledMethod_misuses _ _ _).blames _).bind fun method _ => ?_
    exact ((method.signature_misuses _ _ _).blames _).bind fun signature _ => .ok _
  | ifElse cond thenBranch elseBranch ihCond ihThen ihElse =>
    rw [nodeOf]
    refine (ihCond.operand (by simp [Expr.children])).bind fun condNode _ => ?_
    refine ((resolve_misuses settings _ _).blames _).bind fun truth _ => ?_
    refine (ihThen.operand (by simp [Expr.children])).bind fun thenNode thenTyped => ?_
    refine (ihElse.operand (by simp [Expr.children])).bind fun elseNode elseTyped => ?_
    exact join_blames thenTyped elseTyped

/-- A function fails as its body does, or because its result cannot be packed. -/
theorem inferFunction_blames (settings : Settings) (ctx : Context) (params : List Ty)
    (body : Expr) :
    FailsOnly (body.Blames ⟨.numeric, settings⟩ params)
      (inferFunction ⟨.numeric, settings⟩ ctx params body).1 := by
  have planned : FailsOnly (body.Blames ⟨.numeric, settings⟩ params)
      (packedTypeOf ⟨.numeric, settings⟩ params body) := by
    refine (nodeOf_blames settings params body).bind fun node _ => ?_
    exact ((resolve_misuses settings _ _).blames _).bind fun packed _ => .ok _
  intro failure failed
  cases outcome : packedTypeOf ⟨.numeric, settings⟩ params body with
  | error actual =>
    obtain ⟨grown, ran⟩ := inferFunction_error outcome ctx
    rw [ran] at failed
    cases failed
    exact planned _ outcome
  | ok types =>
    obtain ⟨function, grown, ran, _⟩ := inferFunction_ok outcome ctx
    rw [ran] at failed
    cases failed

end RowTyping
