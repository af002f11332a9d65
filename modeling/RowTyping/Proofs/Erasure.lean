import RowTyping.Proofs.Elaboration
import RowTyping.Proofs.Join

namespace RowTyping

/-- Whether no node makes a mask or looks at one. -/
def Expr.isMaskBlind : Expr → Bool
  | .literal _ | .param _ => true
  | .binary _ left right => left.isMaskBlind && right.isMaskBlind
  | .unary _ operand | .len operand => operand.isMaskBlind
  | .ifElse cond thenBranch elseBranch =>
    cond.isMaskBlind && thenBranch.isMaskBlind && elseBranch.isMaskBlind
  | .na | .masked _ _ | .isNull _ _ | .attr _ _ | .call _ _ _ => false

variable {settings : Settings} {params : List Ty} {a b : Ty}

/-- The second type is the first one without its mask; `NA` is not erased. -/
def Ty.Erases (ty bare : Ty) : Prop := ty ≠ .null ∧ bare = ty.unmasked

def Signature.Erases (signature bare : Signature) : Prop := signature.result.Erases bare.result

private theorem liftedSignature_erases {failure failure' : TypeError}
    (primitive : ∀ ty, value = some ty → ∃ p, ty = .primitive p)
    (masked : Bool) :
    Matches Signature.Erases (liftedSignatureOr failure operands masked value)
      (liftedSignatureOr failure' operands' false value) := by
  cases value with
  | none => trivial
  | some ty =>
    obtain ⟨p, rfl⟩ := primitive ty rfl
    simp only [liftedSignatureOr, Ty.lift_primitive]
    cases masked with
    | true => exact ⟨by simp, rfl⟩
    | false => exact ⟨by simp, rfl⟩

private theorem resolve_binary_erases (left : a ≠ .null) (right : b ≠ .null) :
    Matches Signature.Erases (resolve ⟨.numeric, settings⟩ (.binary op) [a, b])
      (resolve ⟨.numeric, settings⟩ (.binary op) [a.unmasked, b.unmasked]) := by
  rw [resolve_binary left right, resolve_binary (by simpa) (by simpa)]
  simp only [Ty.isMasked_unmasked, binaryValue?_unmasked, Bool.or_false]
  exact liftedSignature_erases (fun _ => binaryValue?_primitive) _

private theorem resolve_unary_erases (op : UnaryOp) (a : Ty) :
    Matches Signature.Erases (resolve ⟨.numeric, settings⟩ (.unary op) [a])
      (resolve ⟨.numeric, settings⟩ (.unary op) [a.unmasked]) := by
  simp only [resolve_unary, Ty.isMasked_unmasked, unaryValue?_unmasked]
  exact liftedSignature_erases (fun _ => unaryValue?_primitive) _

private theorem resolve_len_erases (strings : settings.stringOps) (a : Ty) :
    Matches Signature.Erases (resolve ⟨.numeric, settings⟩ .len [a])
      (resolve ⟨.numeric, settings⟩ .len [a.unmasked]) := by
  simp only [resolve_len, strings, Bool.not_true, Bool.and_false, Bool.false_eq_true, ↓reduceIte,
    Ty.isMasked_unmasked, lengthValue?_unmasked]
  exact liftedSignature_erases (fun _ => lengthValue?_primitive) _

private theorem resolve_truth_erases (a : Ty) :
    Matches Signature.Erases (resolve ⟨.numeric, settings⟩ .truth [a])
      (resolve ⟨.numeric, settings⟩ .truth [a.unmasked]) := by
  simp only [resolve_truth, Ty.unmasked_unmasked]
  split
  · exact ⟨by simp [Ty.bool], rfl⟩
  · trivial

private theorem unify_erases (left : a ≠ .null) (right : b ≠ .null) :
    Matches Ty.Erases (Ty.unify .numeric a b) (Ty.unify .numeric a.unmasked b.unmasked) := by
  have symmetric := ScalarTyping.numeric_symmetric
  rw [Ty.unify_eq_lift symmetric left right, Ty.unify_eq_lift symmetric (by simpa) (by simpa)]
  simp only [Ty.unmasked_unmasked, Ty.isMasked_unmasked, Bool.or_false]
  cases scalarJoin : ScalarTyping.numeric.unify a.unmasked b.unmasked with
  | none => trivial
  | some ty =>
    obtain ⟨joined, lifted, present, bare, _⟩ := Ty.lift_join left scalarJoin
    simp only [lifted]
    exact ⟨present, bare.symm⟩

theorem nodeOf_erases (strings : settings.stringOps) (noNull : .null ∉ params)
    (blind : e.isMaskBlind) :
    Matches (fun node bare => node.type.Erases bare.type)
      (nodeOf ⟨.numeric, settings⟩ params e)
      (nodeOf ⟨.numeric, settings⟩ (params.map Ty.unmasked) e) := by
  induction e with
  | literal value =>
    rw [nodeOf, nodeOf]
    cases value <;> exact ⟨by simp [Literal.type, Ty.bool], rfl⟩
  | param index =>
    rw [nodeOf, nodeOf, List.getElem?_map]
    cases found : params[index]? with
    | none => trivial
    | some type =>
      refine ⟨?_, rfl⟩
      rintro rfl
      exact noNull (List.mem_of_getElem? found)
  | binary op left right ihLeft ihRight =>
    obtain ⟨blindLeft, blindRight⟩ := (Bool.and_eq_true _ _).mp blind
    rw [nodeOf, nodeOf]
    refine (ihLeft blindLeft).bind fun leftNode bareLeft _ _ leftErased => ?_
    refine (ihRight blindRight).bind fun rightNode bareRight _ _ rightErased => ?_
    obtain ⟨leftPresent, leftBare⟩ := leftErased
    obtain ⟨rightPresent, rightBare⟩ := rightErased
    rw [leftBare, rightBare]
    exact (resolve_binary_erases leftPresent rightPresent).bind fun _ _ _ _ erased => erased
  | unary op operand ih =>
    rw [nodeOf, nodeOf]
    refine (ih blind).bind fun node bare _ _ erased => ?_
    rw [erased.2]
    exact (resolve_unary_erases op node.type).bind fun _ _ _ _ erased => erased
  | len operand ih =>
    rw [nodeOf, nodeOf]
    refine (ih blind).bind fun node bare _ _ erased => ?_
    rw [erased.2]
    exact (resolve_len_erases strings node.type).bind fun _ _ _ _ erased => erased
  | ifElse cond thenBranch elseBranch ihCond ihThen ihElse =>
    simp only [Expr.isMaskBlind, Bool.and_eq_true] at blind
    obtain ⟨⟨blindCond, blindThen⟩, blindElse⟩ := blind
    rw [nodeOf, nodeOf]
    refine (ihCond blindCond).bind fun condNode bareCond _ _ condErased => ?_
    rw [condErased.2]
    refine (resolve_truth_erases condNode.type).bind fun _ _ _ _ _ => ?_
    refine (ihThen blindThen).bind fun thenNode bareThen _ _ thenErased => ?_
    refine (ihElse blindElse).bind fun elseNode bareElse _ _ elseErased => ?_
    obtain ⟨thenPresent, thenBare⟩ := thenErased
    obtain ⟨elsePresent, elseBare⟩ := elseErased
    rw [thenBare, elseBare]
    refine (unify_erases thenPresent elsePresent).bind fun joined bare joins bareJoins erased => ?_
    obtain ⟨_, thenOk⟩ := Ty.unify_classify_left joins
    obtain ⟨_, elseOk⟩ := Ty.unify_classify_right joins
    obtain ⟨_, bareThenOk⟩ := Ty.unify_classify_left bareJoins
    obtain ⟨_, bareElseOk⟩ := Ty.unify_classify_right bareJoins
    rw [thenOk, elseOk, bareThenOk, bareElseOk]
    exact erased
  | _ => cases blind

/-- Typing succeeds with masked parameters exactly when it does with bare ones, and the mask
is all by which the two types differ. -/
theorem check_erases_masks (strings : settings.stringOps = true) (noNull : .null ∉ params)
    (blind : e.isMaskBlind) (session bareSession : Session) :
    Matches (fun answer bare => answer.2.unmasked = bare.2)
      (check ⟨.numeric, settings⟩ params e session).1
      (check ⟨.numeric, settings⟩ (params.map Ty.unmasked) e bareSession).1 := by
  have types : Matches (fun type bare => type.unmasked = bare)
      (typeOf ⟨.numeric, settings⟩ params e)
      (typeOf ⟨.numeric, settings⟩ (params.map Ty.unmasked) e) :=
    Matches.map_iff.mpr ((nodeOf_erases strings noNull blind).imp fun _ _ erased => erased.2.symm)
  rw [← check_type e session, ← check_type e bareSession, Matches.map_iff] at types
  exact types

/-- A sum of a masked integer and a float, or the length of a masked text. -/
def sumOrLength : Expr :=
  .ifElse (.binary .lt (.param 0) (.literal (.int 0))) (.binary .add (.param 0) (.param 1))
    (.len (.param 2))

def sumOrLengthParams : List Ty :=
  [.masked (.primitive (.int .w32)), .primitive .float32, .maskedString]

theorem sumOrLength_erases_masks :
    .null ∉ sumOrLengthParams ∧ sumOrLength.isMaskBlind = true ∧
      Matches (fun answer bare => answer.2.unmasked = bare.2)
        (check ⟨.numeric, {}⟩ sumOrLengthParams sumOrLength { context := .initial }).1
        (check ⟨.numeric, {}⟩ (sumOrLengthParams.map Ty.unmasked) sumOrLength
          { context := .initial }).1 ∧
      (check ⟨.numeric, {}⟩ sumOrLengthParams sumOrLength { context := .initial }).1 =
        .ok (8, .masked (.primitive .float64)) := by
  have noNull : .null ∉ sumOrLengthParams := by decide
  have blind : sumOrLength.isMaskBlind = true := rfl
  exact ⟨noNull, blind, check_erases_masks rfl noNull blind _ _, by decide +kernel⟩

end RowTyping
