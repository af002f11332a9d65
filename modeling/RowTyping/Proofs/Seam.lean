import RowTyping.Infer.Function
import RowTyping.Proofs.Join
import RowTyping.Proofs.Postorder
import RowTyping.Scalar.Overrides
import RowTyping.Scalar.Promotion

/-! What masked typing asks of a scalar typing. Operators are asked about plain values only,
joins and conversions about types that are neither masked nor `NA`. Scalar typings that agree
there cannot be told apart, although a scalar answer may itself be masked or `NA` and be an
operand of what follows. -/

namespace RowTyping

def Ty.isPlain (ty : Ty) : Bool := ty.isPrimitive || ty.isString

private theorem Ty.isPlain_unmasked (ty : Ty) : ty.unmasked.isPlain = ty.isOperand := by
  cases ty with
  | masked value => cases value <;> rfl
  | _ => rfl

@[simp] theorem MaskedValue.isNullable_type (value : MaskedValue) :
    value.type.isNullable = false := by
  cases value <;> rfl

private theorem Ty.unify_present {scalar : ScalarTyping} {a b : Ty} (left : a.isNullable = false)
    (right : b.isNullable = false) :
    unify scalar a b =
      match scalar.unify a b with
      | some joined => .ok joined
      | none => .error (.noCommonType a.name b.name) := by
  cases a with
  | masked | null => cases left
  | _ =>
    cases b with
    | masked | null => cases right
    | _ => rfl

/-- Two scalar typings with the same answers of operators about plain values, and of joins and
conversions about types that are neither masked nor `NA`. -/
structure ScalarTyping.AgreeOnValues (first second : ScalarTyping) : Prop where
  binary : ∀ op a b, a.isPlain → b.isPlain → first.binary op a b = second.binary op a b
  unary : ∀ op a, a.isPlain → first.unary op a = second.unary op a
  unify : ∀ a b, a.isNullable = false → b.isNullable = false → first.unify a b = second.unify a b
  canCast : ∀ a b, a.isNullable = false → b.isNullable = false →
    first.canCast a b = second.canCast a b

namespace ScalarTyping.AgreeOnValues

variable {first second : ScalarTyping} (agree : first.AgreeOnValues second)
include agree

/-! Joins and conversions. -/

private theorem unifyMasked_eq (value : MaskedValue) {other : Ty} (a b : Ty)
    (present : other.isNullable = false) :
    Ty.unifyMasked first value other a b = Ty.unifyMasked second value other a b := by
  unfold Ty.unifyMasked
  rw [agree.unify _ _ value.isNullable_type present]

theorem unify_eq (a b : Ty) : Ty.unify first a b = Ty.unify second a b := by
  cases a with
  | null => rw [Ty.unify_null_left, Ty.unify_null_left]
  | masked value =>
    cases b with
    | null => rw [Ty.unify_null_right, Ty.unify_null_right]
    | masked other => exact agree.unifyMasked_eq value _ _ other.isNullable_type
    | _ => exact agree.unifyMasked_eq value _ _ rfl
  | _ =>
    cases b with
    | null => rw [Ty.unify_null_right, Ty.unify_null_right]
    | masked value => exact agree.unifyMasked_eq value _ _ rfl
    | _ => rw [Ty.unify_present rfl rfl, Ty.unify_present rfl rfl, agree.unify _ _ rfl rfl]

private theorem ifCast_eq (way : Conversion) (source target : Ty) {a b : Ty}
    (left : a.isNullable = false) (right : b.isNullable = false) :
    Conversion.ifCast (first.canCast a b) way source target =
      Conversion.ifCast (second.canCast a b) way source target := by
  rw [agree.canCast a b left right]

theorem classify_eq (source target : Ty) :
    Conversion.classify first source target = Conversion.classify second source target := by
  by_cases same : source = target
  · subst same
    rw [Conversion.classify_self, Conversion.classify_self]
  unfold Conversion.classify
  rw [if_neg same, if_neg same]
  cases target with
  | masked value =>
    cases source with
    | null => rfl
    | masked other => exact agree.ifCast_eq _ _ _ other.isNullable_type value.isNullable_type
    | primitive | ownedString | external =>
      exact agree.ifCast_eq _ _ _ rfl value.isNullable_type
    | stringView | stringLiteral =>
      -- A copy needs no cast; a mask over a primitive does.
      cases value with
      | ownedString => rfl
      | primitive p => exact agree.ifCast_eq _ _ _ rfl rfl
  | primitive p =>
    cases source with
    | primitive q => exact agree.ifCast_eq _ _ _ rfl rfl
    | _ => rfl
  | _ => cases source <;> rfl

/-! Operations. -/

private theorem binaryValue?_eq (op : BinaryOp) (a b : Ty) :
    binaryValue? first op a b = binaryValue? second op a b := by
  unfold binaryValue?
  split
  next operands =>
    rw [Bool.and_eq_true, ← Ty.isPlain_unmasked, ← Ty.isPlain_unmasked] at operands
    exact agree.binary op _ _ operands.1 operands.2
  next => rfl

private theorem unaryValue?_eq (op : UnaryOp) (a : Ty) :
    unaryValue? first op a = unaryValue? second op a := by
  unfold unaryValue?
  split
  next operand =>
    have plain : a.unmasked.isPlain := by
      rw [Ty.isPlain_unmasked]
      cases a with
      | masked | primitive => rfl
      | _ => cases operand
    exact agree.unary op _ plain
  next => rfl

private theorem resolve_binary_eq (settings : Settings) (op : BinaryOp) (a b : Ty) :
    resolve ⟨first, settings⟩ (.binary op) [a, b] =
      resolve ⟨second, settings⟩ (.binary op) [a, b] := by
  by_cases left : a = .null
  · subst left
    rw [resolve_binary_null_left, resolve_binary_null_left]
  by_cases right : b = .null
  · subst right
    rw [resolve_binary_null_right, resolve_binary_null_right]
  rw [resolve_binary left right, resolve_binary left right, agree.binaryValue?_eq]

theorem resolve_eq (settings : Settings) (operation : Operation) (operands : List Ty) :
    resolve ⟨first, settings⟩ operation operands =
      resolve ⟨second, settings⟩ operation operands := by
  -- Only one or two operands have a pattern.
  match operands with
  | [] => rfl
  | [a] =>
    cases operation with
    | unary op => rw [resolve_unary, resolve_unary, agree.unaryValue?_eq]
    | truth => rw [resolve_truth, resolve_truth]
    | len => rw [resolve_len, resolve_len]
    | _ => cases a <;> rfl
  | [a, b] =>
    cases operation with
    | binary op => exact agree.resolve_binary_eq settings op a b
    | _ => cases a <;> cases b <;> rfl
  | _ :: _ :: _ :: _ => rfl

/-! Expressions and functions. -/

private theorem convertBranch_eq (settings : Settings) (node : NodeId) (branch joined : Ty) :
    Check.convertBranch ⟨first, settings⟩ node branch joined =
      Check.convertBranch ⟨second, settings⟩ node branch joined := by
  unfold Check.convertBranch
  rw [agree.classify_eq]

omit agree in
private theorem checkArgs_eq (settings : Settings) (params : List Ty) (args : List Expr)
    (each : ∀ arg ∈ args,
      check ⟨first, settings⟩ params arg = check ⟨second, settings⟩ params arg) :
    checkArgs ⟨first, settings⟩ params args = checkArgs ⟨second, settings⟩ params args := by
  induction args with
  | nil => rw [checkArgs, checkArgs]
  | cons arg rest ih =>
    have head := each arg List.mem_cons_self
    have tail := ih fun other member => each other (List.mem_cons_of_mem arg member)
    rw [checkArgs, checkArgs, head, tail]

/-- Not only the type, but everything that typing records is the same. -/
theorem check_eq (settings : Settings) (params : List Ty) (e : Expr) :
    check ⟨first, settings⟩ params e = check ⟨second, settings⟩ params e := by
  -- An operand may have any type that a scalar typing answers; `resolve_eq` asks nothing of it.
  induction e with
  | literal value => rw [check, check]
  | param index => rw [check, check]
  | na => rw [check, check]
  | masked value valid ihValue ihValid =>
    rw [check, check, ihValue, ihValid]
    simp only [agree.resolve_eq settings]
  | binary op left right ihLeft ihRight =>
    rw [check, check, ihLeft, ihRight]
    simp only [agree.resolve_eq settings]
  | unary op operand ih =>
    rw [check, check, ih]
    simp only [agree.resolve_eq settings]
  | isNull left right ihLeft ihRight =>
    rw [check, check, ihLeft, ihRight]
    simp only [agree.resolve_eq settings]
  | len operand ih =>
    rw [check, check, ih]
    simp only [agree.resolve_eq settings]
  | attr base name ih =>
    rw [check, check, ih]
    rfl
  | call receiver name args ih ihArgs =>
    rw [check, check, ih, checkArgs_eq settings params args ihArgs]
    rfl
  | ifElse cond thenBranch elseBranch ihCond ihThen ihElse =>
    rw [check, check, ihCond, ihThen, ihElse]
    simp only [agree.resolve_eq settings, agree.unify_eq, agree.convertBranch_eq settings]

theorem inferFunction_eq (settings : Settings) (ctx : Context) (params : List Ty) (body : Expr) :
    inferFunction ⟨first, settings⟩ ctx params body =
      inferFunction ⟨second, settings⟩ ctx params body := by
  have bodies : checkBody ⟨first, settings⟩ params body =
      checkBody ⟨second, settings⟩ params body := by
    unfold checkBody
    rw [agree.check_eq]
    simp only [agree.resolve_eq settings]
  unfold inferFunction
  rw [bodies]

end ScalarTyping.AgreeOnValues

/-- Masked typing never asks a scalar typing about masked types or `NA`: typings that agree on
the other arguments yield the same joins, conversions, signatures and typed functions, and fail
with the same errors. -/
theorem typing_eq_of_agreeOnValues (first second : ScalarTyping)
    (agree : first.AgreeOnValues second) :
    (∀ a b, Ty.unify first a b = Ty.unify second a b) ∧
    (∀ source target,
      Conversion.classify first source target = Conversion.classify second source target) ∧
    (∀ settings operation operands,
      resolve ⟨first, settings⟩ operation operands =
        resolve ⟨second, settings⟩ operation operands) ∧
    ∀ settings ctx params body,
      inferFunction ⟨first, settings⟩ ctx params body =
        inferFunction ⟨second, settings⟩ ctx params body :=
  ⟨agree.unify_eq, agree.classify_eq, agree.resolve_eq, agree.inferFunction_eq⟩

/-! Exceptions that are never met. -/

namespace ScalarRow

/-- Whether an exception is about arguments on which scalar typings need not agree. -/
def isStray : ScalarRow → Bool
  | .binary _ left right _ => !(left.isPlain && right.isPlain)
  | .unary _ operand _ => !operand.isPlain
  | .unify left right _ | .cast left right _ => left.isNullable || right.isNullable

variable {row : ScalarRow} (stray : row.isStray) {a b : Ty}
include stray

private theorem binaryAnswer?_of_isStray (op : BinaryOp) (left : a.isPlain) (right : b.isPlain) :
    row.binaryAnswer? op a b = none := by
  cases row with
  | binary =>
    refine if_neg ?_
    rintro ⟨_, rfl, rfl⟩
    simp [isStray, left, right] at stray
  | _ => rfl

private theorem unaryAnswer?_of_isStray (op : UnaryOp) (operand : a.isPlain) :
    row.unaryAnswer? op a = none := by
  cases row with
  | unary =>
    refine if_neg ?_
    rintro ⟨_, rfl⟩
    simp [isStray, operand] at stray
  | _ => rfl

private theorem unifyAnswer?_of_isStray (left : a.isNullable = false)
    (right : b.isNullable = false) :
    row.unifyAnswer? a b = none := by
  cases row with
  | unify =>
    refine if_neg ?_
    rintro ⟨rfl, rfl⟩
    simp [isStray, left, right] at stray
  | _ => rfl

private theorem castAnswer?_of_isStray (left : a.isNullable = false)
    (right : b.isNullable = false) :
    row.castAnswer? a b = none := by
  cases row with
  | cast =>
    refine if_neg ?_
    rintro ⟨rfl, rfl⟩
    simp [isStray, left, right] at stray
  | _ => rfl

end ScalarRow

/-- Stray exceptions to a scalar typing change none of the answers that matter. -/
theorem ScalarTyping.agreeOnValues_overridden (base : ScalarTyping) {rows : List ScalarRow}
    (stray : ∀ row ∈ rows, row.isStray) : base.AgreeOnValues (base.overridden rows) := by
  have unmet {α : Type} {answer : ScalarRow → Option α} (answerOfBase : α)
      (silent : ∀ row : ScalarRow, row.isStray → answer row = none) :
      answerOfBase = (rows.findSome? answer).getD answerOfBase := by
    have none : rows.findSome? answer = none := by
      rw [List.findSome?_eq_none_iff]
      intro row member
      exact silent row (stray row member)
    rw [none, Option.getD_none]
  constructor
  · intro op a b left right
    exact unmet _ fun row away => row.binaryAnswer?_of_isStray away op left right
  · intro op a operand
    exact unmet _ fun row away => row.unaryAnswer?_of_isStray away op operand
  · intro a b left right
    exact unmet _ fun row away => row.unifyAnswer?_of_isStray away left right
  · intro a b left right
    exact unmet _ fun row away => row.castAnswer?_of_isStray away left right

/-- A scalar typing by which the sum of two truth values is missing. -/
def missingSums : ScalarTyping := .overridden .numeric [.binary "+" .bool .bool (some .null)]

/-- Answers about masks and `NA`, which numeric promotion leaves undefined. -/
def strayAnswers : List ScalarRow :=
  [.unify .null (.masked (.primitive .bool)) (some .stringLiteral),
    .cast .null (.masked (.primitive .bool)) true,
    .binary "+" (.masked (.primitive .bool)) .null (some .null),
    .unary "not" (.masked (.primitive .bool)) (some .stringLiteral)]

/-- A negated flag decides between two missing sums, one of them added to the flag. -/
def sumOrFlag : Expr :=
  .ifElse (.unary .not (.param 1)) (.binary .add (.param 0) (.param 0))
    (.binary .add (.param 1) (.binary .add (.param 0) (.param 0)))

/-- Every stray answer differs from the typing that it is added to, and each is about arguments
that the body has; yet it is typed alike. -/
theorem sumOrFlag_typing_eq :
    missingSums.AgreeOnValues (missingSums.overridden strayAnswers) ∧
      missingSums.unify .null (.masked (.primitive .bool)) ≠
        (missingSums.overridden strayAnswers).unify .null (.masked (.primitive .bool)) ∧
      missingSums.canCast .null (.masked (.primitive .bool)) ≠
        (missingSums.overridden strayAnswers).canCast .null (.masked (.primitive .bool)) ∧
      missingSums.binary .add (.masked (.primitive .bool)) .null ≠
        (missingSums.overridden strayAnswers).binary .add (.masked (.primitive .bool)) .null ∧
      missingSums.unary .not (.masked (.primitive .bool)) ≠
        (missingSums.overridden strayAnswers).unary .not (.masked (.primitive .bool)) ∧
      (inferFunction ⟨missingSums, {}⟩ .initial [.bool, .masked (.primitive .bool)]
        sumOrFlag).1.isOk ∧
      inferFunction ⟨missingSums, {}⟩ .initial [.bool, .masked (.primitive .bool)] sumOrFlag =
        inferFunction ⟨missingSums.overridden strayAnswers, {}⟩ .initial
          [.bool, .masked (.primitive .bool)] sumOrFlag := by
  have stray : ∀ row ∈ strayAnswers, row.isStray := by decide
  have agree := missingSums.agreeOnValues_overridden stray
  obtain ⟨_, _, _, functions⟩ := typing_eq_of_agreeOnValues _ _ agree
  exact ⟨agree, by decide +kernel, by decide +kernel, by decide +kernel, by decide +kernel,
    by decide +kernel, functions _ _ _ _⟩

end RowTyping
