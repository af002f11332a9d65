import RowTyping.Proofs.Elaboration
import RowTyping.Proofs.Join

/-! Mirror images of expressions. Swapping the operands of a symmetric operator, the sides of
an identity test or the branches of a join changes the numbering of the nodes and the order
in which failures are met, but neither whether a body is typed nor its type. -/

namespace RowTyping

/-- The operator that yields the same on swapped operands, where there is one. -/
def BinaryOp.mirror? : BinaryOp → Option BinaryOp
  | .add => some .add
  | .mul => some .mul
  | .bitAnd => some .bitAnd
  | .bitOr => some .bitOr
  | .bitXor => some .bitXor
  | .eq => some .eq
  | .ne => some .ne
  | .lt => some .gt
  | .le => some .ge
  | .gt => some .lt
  | .ge => some .le
  | .sub | .trueDiv | .floorDiv | .mod | .pow => none

/-- The smallest congruence that allows the swaps. -/
inductive Expr.Mirror : Expr → Expr → Prop where
  | refl (e : Expr) : Mirror e e
  | symm : Mirror e e' → Mirror e' e
  | trans : Mirror e e' → Mirror e' e'' → Mirror e e''
  | swapOperands (mirrored : op.mirror? = some op') (left right : Expr) :
    Mirror (.binary op left right) (.binary op' right left)
  | swapSides (left right : Expr) : Mirror (.isNull left right) (.isNull right left)
  | swapBranches (cond thenBranch elseBranch : Expr) :
    Mirror (.ifElse cond thenBranch elseBranch) (.ifElse cond elseBranch thenBranch)
  | masked : Mirror value value' → Mirror valid valid' →
    Mirror (.masked value valid) (.masked value' valid')
  | binary (op : BinaryOp) : Mirror left left' → Mirror right right' →
    Mirror (.binary op left right) (.binary op left' right')
  | unary (op : UnaryOp) : Mirror operand operand' →
    Mirror (.unary op operand) (.unary op operand')
  | isNull : Mirror left left' → Mirror right right' →
    Mirror (.isNull left right) (.isNull left' right')
  | len : Mirror operand operand' → Mirror (.len operand) (.len operand')
  | attr (name : String) : Mirror base base' → Mirror (.attr base name) (.attr base' name)
  | receiver (method : String) (args : List Expr) : Mirror base base' →
    Mirror (.call base method args) (.call base' method args)
  /-- One argument at a time; several follow by transitivity. -/
  | argument (base : Expr) (method : String) (front rest : List Expr) : Mirror arg arg' →
    Mirror (.call base method (front ++ arg :: rest)) (.call base method (front ++ arg' :: rest))
  | ifElse {cond cond' : Expr} : Mirror cond cond' → Mirror thenBranch thenBranch' →
    Mirror elseBranch elseBranch' →
    Mirror (.ifElse cond thenBranch elseBranch) (.ifElse cond' thenBranch' elseBranch')

/-- A scalar typing under which the swaps change nothing. -/
structure ScalarTyping.Mirrored (scalar : ScalarTyping) : Prop where
  unify : scalar.Symmetric
  binary : ∀ op op' a b, op.mirror? = some op' → scalar.binary op a b = scalar.binary op' b a

/-! Numeric promotion. -/

private theorem BinaryOp.category_mirror {op op' : BinaryOp} (mirrored : op.mirror? = some op') :
    op.category = op'.category := by
  cases op <;> cases mirrored <;> rfl

/-- The arithmetic operators that may be swapped are their own mirror images. -/
theorem BinaryOp.mirror_arithmetic {op op' : BinaryOp} (mirrored : op.mirror? = some op')
    (arithmetic : op.category = .arithmetic) : op = op' ∧ (op = .add ∨ op = .mul) := by
  cases op with
  | add =>
    cases mirrored
    exact ⟨rfl, .inl rfl⟩
  | mul =>
    cases mirrored
    exact ⟨rfl, .inr rfl⟩
  | sub | trueDiv | floorDiv | mod | pow => cases mirrored
  | _ => cases arithmetic

namespace Primitive

private theorem temporalArithmetic?_comm (swappable : op = .add ∨ op = .mul) (a b : Primitive) :
    temporalArithmetic? op a b = temporalArithmetic? op b a := by
  rcases swappable with rfl | rfl
  · cases a <;> cases b
    case datetime.timedelta first second | timedelta.datetime first second =>
      exact congrArg (fun unit => some (datetime unit)) (TimeUnit.finer_comm first second)
    case timedelta.timedelta first second =>
      exact congrArg (fun unit => some (timedelta unit)) (TimeUnit.finer_comm first second)
    all_goals rfl
  · cases a <;> cases b <;> rfl

private theorem arithmetic?_comm (swappable : op = .add ∨ op = .mul) (a b : Primitive) :
    arithmetic? op a b = arithmetic? op b a := by
  unfold arithmetic?
  rw [temporalArithmetic?_comm swappable, promote?_comm, Bool.or_comm]

private theorem comparison?_comm (a b : Primitive) : comparison? a b = comparison? b a := by
  cases a <;> cases b <;> rfl

private theorem bitwise?_comm (a b : Primitive) : bitwise? a b = bitwise? b a := by
  unfold bitwise?
  rw [promote?_comm, Bool.or_comm]

theorem binary?_mirror (mirrored : op.mirror? = some op') (a b : Primitive) :
    binary? op a b = binary? op' b a := by
  have same := BinaryOp.category_mirror mirrored
  unfold binary?
  rw [Bool.or_comm, ← same]
  cases category : op.category with
  | arithmetic =>
    obtain ⟨rfl, swappable⟩ := BinaryOp.mirror_arithmetic mirrored category
    simp only [arithmetic?_comm swappable a b]
  | bitwise => simp only [bitwise?_comm a b]
  | comparison => simp only [comparison?_comm a b]

end Primitive

theorem ScalarTyping.numeric_mirrored : numeric.Mirrored where
  unify := numeric_symmetric
  binary := by
    intro op op' a b mirrored
    have text : (if a.isString && b.isString && op.category = .comparison then some Ty.bool
        else none) =
        if b.isString && a.isString && op'.category = .comparison then some Ty.bool else none := by
      rw [BinaryOp.category_mirror mirrored, Bool.and_comm a.isString]
    cases a with
    | primitive p =>
      cases b with
      | primitive q =>
        exact congrArg (Option.map Ty.primitive) (Primitive.binary?_mirror mirrored p q)
      | _ => exact text
    | _ => cases b <;> exact text

variable {env : TypingEnv} {scalar : ScalarTyping} {settings : Settings} {params : List Ty}
variable {a b : Ty} {op op' : BinaryOp}

/-- Both expressions have the same type, or neither has one. -/
def SameType (first second : Except TypeError Node) : Prop :=
  Matches (fun node other => node.type = other.type) first second

def SameResult (first second : Except TypeError Signature) : Prop :=
  Matches (fun signature other => signature.result = other.result) first second

theorem SameType.refl (outcome : Except TypeError Node) : SameType outcome outcome :=
  Matches.refl fun _ => rfl

theorem SameResult.applying {first second : Except TypeError Signature}
    (same : SameResult first second) :
    SameType (do return Node.applying (← first)) (do return Node.applying (← second)) :=
  Matches.bind same fun _ _ _ _ equal => equal

private theorem binaryValue?_mirror (scalar : ScalarTyping) (mirrored : scalar.Mirrored)
    (swaps : op.mirror? = some op') (a b : Ty) :
    binaryValue? scalar op a b = binaryValue? scalar op' b a := by
  unfold binaryValue?
  rw [mirrored.binary op op' _ _ swaps, Bool.and_comm]

private theorem liftedSignature_sameResult (failure failure' : TypeError)
    (operands operands' : List Ty) (masked : Bool) (value : Option Ty) :
    SameResult (liftedSignatureOr failure operands masked value)
      (liftedSignatureOr failure' operands' masked value) := by
  cases value with
  | none => trivial
  | some ty =>
    unfold liftedSignatureOr
    exact Matches.map_iff.mpr (Matches.refl fun _ => rfl)

private theorem resolve_binary_mirror (mirrored : env.scalar.Mirrored)
    (swaps : op.mirror? = some op')
    (a b : Ty) :
    SameResult (resolve env (.binary op) [a, b]) (resolve env (.binary op') [b, a]) := by
  by_cases left : a = .null
  · subst left
    rw [resolve_binary_null_left, resolve_binary_null_right]
    split
    · rfl
    · trivial
  by_cases right : b = .null
  · subst right
    rw [resolve_binary_null_left, resolve_binary_null_right]
    split
    · rfl
    · trivial
  rw [resolve_binary left right, resolve_binary right left, Bool.or_comm,
    binaryValue?_mirror _ mirrored swaps]
  exact liftedSignature_sameResult _ _ _ _ _ _

private theorem resolve_isNull_mirror (env : TypingEnv) (a b : Ty) :
    SameResult (resolve env .isNull [a, b]) (resolve env .isNull [b, a]) := by
  cases a with
  | masked value =>
    cases b with
    | null => rfl
    | _ => trivial
  | null =>
    cases b with
    | masked value => rfl
    | _ => trivial
  | _ => cases b <;> trivial

private theorem Ty.unify_mirror (symmetric : scalar.Symmetric) (a b : Ty) :
    Matches (· = ·) (unify scalar a b) (unify scalar b a) := by
  cases joins : unify scalar a b with
  | ok joined =>
    rw [(unify_eq_ok_comm symmetric).mp joins]
    exact rfl
  | error failure =>
    cases swapped : unify scalar b a with
    | ok joined =>
      have joins' := (unify_eq_ok_comm symmetric).mp swapped
      rw [joins] at joins'
      cases joins'
    | error failure' => trivial

private def joinNode (scalar : ScalarTyping) (thenNode elseNode : Node) :
    Except TypeError Node := do
  let joined ← Ty.unify scalar thenNode.type elseNode.type
  let _ ← Conversion.classify scalar thenNode.type joined
  let _ ← Conversion.classify scalar elseNode.type joined
  return { type := joined }

private theorem joinNode_mirror (symmetric : scalar.Symmetric) (thenNode elseNode : Node) :
    SameType (joinNode scalar thenNode elseNode) (joinNode scalar elseNode thenNode) := by
  refine (Ty.unify_mirror symmetric _ _).bind fun joined swapped _ _ same => ?_
  subst same
  exact Matches.swap fun _ _ => rfl

private theorem argTypesOf_mirror {arg arg' : Expr}
    (same : SameType (nodeOf env params arg) (nodeOf env params arg')) (front rest : List Expr) :
    Matches (· = ·) (argTypesOf env params (front ++ arg :: rest))
      (argTypesOf env params (front ++ arg' :: rest)) := by
  induction front with
  | nil =>
    rw [List.nil_append, List.nil_append, argTypesOf, argTypesOf]
    refine Matches.bind same fun node other _ _ equal => ?_
    rw [equal]
    exact Matches.refl fun _ => rfl
  | cons first front ih =>
    rw [List.cons_append, List.cons_append, argTypesOf, argTypesOf]
    refine Matches.after fun node => Matches.bind ih fun types types' _ _ equal => ?_
    rw [equal]
    exact rfl

theorem Expr.Mirror.sameType {e e' : Expr} (mirrored : env.scalar.Mirrored) (mirror : e.Mirror e') :
    SameType (nodeOf env params e) (nodeOf env params e') := by
  induction mirror with
  | refl e => exact SameType.refl _
  | symm _ ih => exact ih.symm.imp fun _ _ equal => equal.symm
  | trans _ _ first second => exact Matches.trans first second fun _ _ _ => Eq.trans
  | swapOperands swaps left right =>
    rw [nodeOf, nodeOf]
    exact Matches.swap fun x y => (resolve_binary_mirror mirrored swaps x.type y.type).applying
  | swapSides left right =>
    rw [nodeOf, nodeOf]
    exact Matches.swap fun x y => (resolve_isNull_mirror env x.type y.type).applying
  | swapBranches cond thenBranch elseBranch =>
    rw [nodeOf, nodeOf]
    refine Matches.after fun condNode => Matches.after fun truth => ?_
    exact Matches.swap fun x y => joinNode_mirror mirrored.unify x y
  | masked _ _ ihValue ihValid =>
    rw [nodeOf, nodeOf]
    refine Matches.bind ihValue fun value value' _ _ sameValue => ?_
    refine Matches.bind ihValid fun valid valid' _ _ sameValid => ?_
    rw [sameValue, sameValid]
    exact SameType.refl _
  | binary op _ _ ihLeft ihRight =>
    rw [nodeOf, nodeOf]
    refine Matches.bind ihLeft fun left left' _ _ sameLeft => ?_
    refine Matches.bind ihRight fun right right' _ _ sameRight => ?_
    rw [sameLeft, sameRight]
    exact SameType.refl _
  | unary op _ ih =>
    rw [nodeOf, nodeOf]
    refine Matches.bind ih fun operand operand' _ _ same => ?_
    rw [same]
    exact SameType.refl _
  | isNull _ _ ihLeft ihRight =>
    rw [nodeOf, nodeOf]
    refine Matches.bind ihLeft fun left left' _ _ sameLeft => ?_
    refine Matches.bind ihRight fun right right' _ _ sameRight => ?_
    rw [sameLeft, sameRight]
    exact SameType.refl _
  | len _ ih =>
    rw [nodeOf, nodeOf]
    refine Matches.bind ih fun operand operand' _ _ same => ?_
    rw [same]
    exact SameType.refl _
  | attr name _ ih =>
    rw [nodeOf, nodeOf]
    refine Matches.bind ih fun base base' _ _ same => ?_
    rw [same]
    exact SameType.refl _
  | receiver method args _ ih =>
    rw [nodeOf, nodeOf]
    refine Matches.bind ih fun base base' _ _ same => ?_
    rw [same]
    exact SameType.refl _
  | argument base method front rest _ ih =>
    rw [nodeOf, nodeOf]
    refine Matches.after fun base => ?_
    refine Matches.bind (argTypesOf_mirror ih front rest) fun types types' _ _ same => ?_
    rw [same]
    exact SameType.refl _
  | ifElse _ _ _ ihCond ihThen ihElse =>
    rw [nodeOf, nodeOf]
    refine Matches.bind ihCond fun condNode condNode' _ _ sameCond => ?_
    rw [sameCond]
    refine Matches.after fun truth => ?_
    refine Matches.bind ihThen fun thenNode thenNode' _ _ sameThen => ?_
    refine Matches.bind ihElse fun elseNode elseNode' _ _ sameElse => ?_
    rw [sameThen, sameElse]
    exact SameType.refl _

theorem Expr.Mirror.packedTypeOf {e e' : Expr} (mirrored : env.scalar.Mirrored)
    (mirror : e.Mirror e') :
    Matches (· = ·) (packedTypeOf env params e) (packedTypeOf env params e') := by
  refine Matches.bind (mirror.sameType mirrored) fun node node' _ _ same => ?_
  rw [same]
  exact Matches.refl fun _ => rfl

/-- Whatever the contexts, a function and its mirror image are typed alike. Numeric promotion
is symmetric in the sense that this needs. -/
theorem inferFunction_mirror :
    ScalarTyping.numeric.Mirrored ∧
      ∀ (scalar : ScalarTyping) (settings : Settings) (params : List Ty) (e e' : Expr)
        (ctx ctx' : Context), scalar.Mirrored → e.Mirror e' →
        AgreeOnTypes (inferFunction ⟨scalar, settings⟩ ctx params e)
          (inferFunction ⟨scalar, settings⟩ ctx' params e') := by
  refine ⟨ScalarTyping.numeric_mirrored, ?_⟩
  intro scalar settings params e e' ctx ctx' mirrored mirror
  exact inferFunction_agree (mirror.packedTypeOf mirrored) ctx ctx'

/-- The sum of the parameters where the first is smaller, and nothing elsewhere. -/
def sumWhereSmaller : Expr :=
  .ifElse (.binary .lt (.param 0) (.param 1)) (.binary .add (.param 0) (.param 1)) .na

/-- The same with every pair of operands and the branches swapped. -/
def sumWhereSmallerMirrored : Expr :=
  .ifElse (.binary .gt (.param 1) (.param 0)) .na (.binary .add (.param 1) (.param 0))

theorem sumWhereSmaller_mirror :
    sumWhereSmaller.Mirror sumWhereSmallerMirrored ∧
      (inferFunction ⟨.numeric, {}⟩ .initial [.masked (.primitive (.int .w32)),
        .primitive .float32] sumWhereSmaller).1.isOk ∧
      AgreeOnTypes
        (inferFunction ⟨.numeric, {}⟩ .initial [.masked (.primitive (.int .w32)),
          .primitive .float32] sumWhereSmaller)
        (inferFunction ⟨.numeric, {}⟩ .initial [.masked (.primitive (.int .w32)),
          .primitive .float32] sumWhereSmallerMirrored) := by
  have mirror : sumWhereSmaller.Mirror sumWhereSmallerMirrored :=
    .trans (.ifElse (.swapOperands rfl _ _) (.swapOperands rfl _ _) (.refl .na))
      (.swapBranches _ _ _)
  obtain ⟨mirrored, agree⟩ := inferFunction_mirror
  exact ⟨mirror, by decide +kernel, agree _ _ _ _ _ _ _ mirrored mirror⟩

end RowTyping
