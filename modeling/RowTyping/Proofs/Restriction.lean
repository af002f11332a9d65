import RowTyping.Proofs.ConversionSites
import RowTyping.Proofs.Lifting

/-! Settings only restrict. Typing under stricter settings runs in step with typing under laxer
ones and records the same, until it meets a string operation that is switched off or a mask over
a unit that is not accepted; there it fails and reports just that. -/

namespace RowTyping

/-- Stricter settings read literals alike, accept fewer units, and may switch string operations
off. -/
structure Settings.Restricts (strict lax : Settings) : Prop where
  literalInt : strict.literalInt = lax.literalInt
  literalFloat : strict.literalFloat = lax.literalFloat
  timeUnits : ∀ unit ∈ strict.timeUnits, unit ∈ lax.timeUnits
  stringOps : strict.stringOps → lax.stringOps

/-- Whether a failure may come from the settings: a string operation that is switched off, or an
argument that explicit masking refuses. -/
def TypeError.isRestriction : TypeError → Bool
  | .stringsDisabled _ => true
  | .argumentMismatch callee _ _ => callee = "Masked"
  | _ => false

theorem TypeError.isRestriction_iff {failure : TypeError} :
    failure.isRestriction ↔ (∃ operation, failure = .stringsDisabled operation) ∨
      ∃ expected actual, failure = .argumentMismatch "Masked" expected actual := by
  cases failure <;> simp [isRestriction]

/-- The first outcome is the second one, or a failure that the settings cause. -/
def Narrows (strict lax : Except TypeError α) : Prop :=
  strict = lax ∨ ∃ failure, strict = .error failure ∧ failure.isRestriction

theorem Narrows.refl (outcome : Except TypeError α) : Narrows outcome outcome := .inl rfl

theorem Narrows.error {failure : TypeError} (restriction : failure.isRestriction)
    (lax : Except TypeError α) : Narrows (.error failure) lax :=
  .inr ⟨failure, rfl, restriction⟩

theorem Narrows.map {strict lax : Except TypeError α} (narrows : Narrows strict lax) (f : α → β) :
    Narrows (strict.map f) (lax.map f) := by
  rcases narrows with same | ⟨failure, failed, restriction⟩
  · rw [same]
    exact .refl _
  · rw [failed]
    exact .error restriction _

theorem Narrows.bind {strict lax : Except TypeError α} {next : α → Except TypeError β}
    (narrows : Narrows strict lax) : Narrows (strict >>= next) (lax >>= next) := by
  rcases narrows with same | ⟨failure, failed, restriction⟩
  · rw [same]
    exact .refl _
  · rw [failed]
    exact .error restriction _

namespace Check

variable {strict lax : Check α}

/-- From every session the first step does what the second one does, or fails because of the
settings. -/
def Narrows (strict lax : Check α) : Prop :=
  ∀ session, strict session = lax session ∨
    ∃ failure later, strict session = (.error failure, later) ∧ failure.isRestriction

theorem Narrows.refl (step : Check α) : Narrows step step := by
  intro session
  exact .inl rfl

theorem Narrows.ofOutcome {strict lax : Except TypeError α}
    (narrows : RowTyping.Narrows strict lax) : Narrows (ofOutcome strict) (ofOutcome lax) := by
  intro session
  rcases narrows with same | ⟨failure, failed, restriction⟩
  · rw [same]
    exact .inl rfl
  · rw [failed]
    exact .inr ⟨failure, session, rfl, restriction⟩

/-- Two runs that are in step stay so, since the next steps start in one session. -/
theorem Narrows.bind {next other : α → Check β} (first : Narrows strict lax)
    (rest : ∀ answer, Narrows (next answer) (other answer)) :
    Narrows (strict >>= next) (lax >>= other) := by
  intro session
  rcases first session with same | ⟨failure, later, failed, restriction⟩
  · cases ran : lax session with
    | mk outcome middle =>
      rw [ran] at same
      cases outcome with
      | error failure =>
        rw [bind_error same, bind_error ran]
        exact .inl rfl
      | ok answer =>
        rw [bind_ok same, bind_ok ran]
        exact rest answer middle
  · exact .inr ⟨failure, later, bind_error failed, restriction⟩

end Check

namespace Settings.Restricts

variable {strict lax : Settings} (restricts : strict.Restricts lax) (scalar : ScalarTyping)
include restricts

/-! The places that consult the settings. -/

private theorem literal_type (value : Literal) : value.type strict = value.type lax := by
  cases value with
  | int => exact congrArg Ty.primitive restricts.literalInt
  | float => exact congrArg Ty.primitive restricts.literalFloat
  | bool | string => rfl

theorem accepts {unit : TimeUnit} (accepted : strict.accepts unit) : lax.accepts unit := by
  have member : unit ∈ strict.timeUnits := List.contains_iff_mem.mp accepted
  exact List.contains_iff_mem.mpr (restricts.timeUnits unit member)

private theorem requireStrings_narrows (operation : String) :
    Narrows (TypingEnv.requireStrings ⟨scalar, strict⟩ operation)
      (TypingEnv.requireStrings ⟨scalar, lax⟩ operation) := by
  unfold TypingEnv.requireStrings
  by_cases allowed : strict.stringOps
  · rw [if_pos allowed, if_pos (restricts.stringOps allowed)]
    exact .refl _
  · rw [if_neg allowed]
    exact .error rfl _

private theorem constructSignature_narrows (value valid : Ty) :
    Narrows (Rule.constructSignature ⟨scalar, strict⟩ .construct value valid)
      (Rule.constructSignature ⟨scalar, lax⟩ .construct value valid) := by
  unfold Rule.constructSignature
  dsimp only
  by_cases flag : valid ≠ .bool
  · rw [if_pos flag, if_pos flag]
    exact .refl _
  rw [if_neg flag, if_neg flag]
  cases value.primitive?.bind Primitive.unit? with
  | none => exact .refl _
  | some unit =>
    by_cases accepted : strict.accepts unit
    · simp only [accepted, restricts.accepts accepted, ↓reduceIte]
      exact .refl _
    · simp only [accepted, Bool.false_eq_true, ↓reduceIte]
      exact .error rfl _

/-! Operations, members and methods. -/

theorem resolve_narrows (operation : Operation) (operands : List Ty) :
    Narrows (resolve ⟨scalar, strict⟩ operation operands)
      (resolve ⟨scalar, lax⟩ operation operands) := by
  -- Only the length of a masked text and explicit masking look at the settings.
  match operands with
  | [] => exact .refl _
  | [a] =>
    cases operation with
    | len =>
      cases a with
      | masked value =>
        cases value with
        | primitive => exact .refl _
        | ownedString => exact (restricts.requireStrings_narrows scalar "len").map _
      | _ => exact .refl _
    | unary op =>
      rw [resolve_unary, resolve_unary]
      exact .refl _
    | truth =>
      rw [resolve_truth, resolve_truth]
      exact .refl _
    | _ => cases a <;> exact .refl _
  | [a, b] =>
    cases operation with
    | construct =>
      cases b with
      | primitive p =>
        cases a with
        | primitive q => exact restricts.constructSignature_narrows scalar (.primitive q) _
        | stringView => exact restricts.constructSignature_narrows scalar .stringView _
        | ownedString => exact restricts.constructSignature_narrows scalar .ownedString _
        | _ => exact .refl _
      | _ => cases a <;> exact .refl _
    | _ => cases a <;> cases b <;> exact .refl _
  | _ :: _ :: _ :: _ => exact .refl _

private theorem attribute_narrows (receiver : Ty) (name : String) :
    Narrows (Attribute.resolve ⟨scalar, strict⟩ receiver name)
      (Attribute.resolve ⟨scalar, lax⟩ receiver name) := by
  cases receiver with
  | masked value =>
    unfold Attribute.resolve
    dsimp only
    split
    · exact .refl _
    · exact .refl _
    · split
      · split
        · exact (restricts.requireStrings_narrows scalar _).map _
        · exact .refl _
      · exact .refl _
  | _ => exact .refl _

private theorem memberType_narrows (receiver : Ty) (name : String) :
    Narrows (memberType ⟨scalar, strict⟩ receiver name)
      (memberType ⟨scalar, lax⟩ receiver name) := by
  unfold memberType
  exact (restricts.attribute_narrows scalar receiver name).bind

private theorem calledMethod_narrows (receiver : Ty) (name : String) :
    Narrows (calledMethod ⟨scalar, strict⟩ receiver name)
      (calledMethod ⟨scalar, lax⟩ receiver name) := by
  unfold calledMethod
  exact (restricts.attribute_narrows scalar receiver name).bind

private theorem signature_narrows (method : StringMethod) (receiver : Ty) (args : List Ty) :
    Narrows (method.signature ⟨scalar, strict⟩ receiver args)
      (method.signature ⟨scalar, lax⟩ receiver args) := by
  unfold StringMethod.signature
  by_cases other : receiver ≠ .maskedString
  · rw [if_pos other, if_pos other]
    exact .refl _
  rw [if_neg other, if_neg other]
  rcases restricts.requireStrings_narrows scalar method.name with same | ⟨failure, failed, cause⟩
  · rw [same]
    exact .refl _
  · rw [failed]
    exact .error cause _

/-! Expressions and functions. -/

omit restricts in
private theorem checkArgs_narrows {params : List Ty} {args : List Expr}
    (each : ∀ arg ∈ args,
      Check.Narrows (check ⟨scalar, strict⟩ params arg) (check ⟨scalar, lax⟩ params arg)) :
    Check.Narrows (checkArgs ⟨scalar, strict⟩ params args)
      (checkArgs ⟨scalar, lax⟩ params args) := by
  induction args with
  | nil =>
    rw [checkArgs, checkArgs]
    exact .refl _
  | cons arg rest ih =>
    have later := ih fun other member => each other (List.mem_cons_of_mem arg member)
    rw [checkArgs, checkArgs]
    refine (each arg List.mem_cons_self).bind fun answer => ?_
    exact later.bind fun types => .refl _

private theorem operation_narrows (operation : Operation) (operands : List Ty) :
    Check.Narrows
      (Check.ofOutcome (resolve ⟨scalar, strict⟩ operation operands) >>= Check.recordSignature)
      (Check.ofOutcome (resolve ⟨scalar, lax⟩ operation operands) >>= Check.recordSignature) :=
  (Check.Narrows.ofOutcome (restricts.resolve_narrows scalar operation operands)).bind
    fun _ => .refl _

theorem check_narrows (params : List Ty) (e : Expr) :
    Check.Narrows (check ⟨scalar, strict⟩ params e) (check ⟨scalar, lax⟩ params e) := by
  induction e with
  | literal value =>
    rw [check, check, restricts.literal_type]
    exact .refl _
  | param index =>
    rw [check, check]
    exact .refl _
  | na =>
    rw [check, check]
    exact .refl _
  | masked value valid ihValue ihValid =>
    rw [check, check]
    refine ihValue.bind fun value => ihValid.bind fun valid => ?_
    have resolved := restricts.resolve_narrows scalar .construct [value.2, valid.2]
    exact (Check.Narrows.ofOutcome resolved).bind fun signature => .refl _
  | binary op left right ihLeft ihRight =>
    rw [check, check]
    refine ihLeft.bind fun left => ihRight.bind fun right => ?_
    exact restricts.operation_narrows scalar (.binary op) _
  | unary op operand ih =>
    rw [check, check]
    refine ih.bind fun operand => ?_
    exact restricts.operation_narrows scalar (.unary op) _
  | isNull left right ihLeft ihRight =>
    rw [check, check]
    refine ihLeft.bind fun left => ihRight.bind fun right => ?_
    exact restricts.operation_narrows scalar .isNull _
  | len operand ih =>
    rw [check, check]
    refine ih.bind fun operand => ?_
    exact restricts.operation_narrows scalar .len _
  | attr base name ih =>
    rw [check, check]
    refine ih.bind fun base => ?_
    have member := restricts.memberType_narrows scalar base.2 name
    exact (Check.Narrows.ofOutcome member).bind fun type => .refl _
  | call receiver name args ihReceiver ihArgs =>
    rw [check, check]
    refine ihReceiver.bind fun receiver => ?_
    refine (checkArgs_narrows scalar ihArgs).bind fun types => ?_
    have called := restricts.calledMethod_narrows scalar receiver.2 name
    refine (Check.Narrows.ofOutcome called).bind fun method => ?_
    have typed := restricts.signature_narrows scalar method receiver.2 types
    exact (Check.Narrows.ofOutcome typed).bind fun signature => .refl _
  | ifElse cond thenBranch elseBranch ihCond ihThen ihElse =>
    rw [check, check]
    refine ihCond.bind fun cond => ?_
    have truth := restricts.resolve_narrows scalar .truth [cond.2]
    refine (Check.Narrows.ofOutcome truth).bind fun _ => ?_
    -- Joins and conversions do not look at the settings.
    exact ihThen.bind fun thenAnswer => ihElse.bind fun elseAnswer => .refl _

private theorem checkBody_narrows (params : List Ty) (body : Expr) :
    Check.Narrows (checkBody ⟨scalar, strict⟩ params body)
      (checkBody ⟨scalar, lax⟩ params body) := by
  unfold checkBody
  refine (restricts.check_narrows scalar params body).bind fun answer => ?_
  have packed := restricts.resolve_narrows scalar .pack [answer.2]
  exact (Check.Narrows.ofOutcome packed).bind fun signature => .refl _

theorem inferFunction_narrows (ctx : Context) (params : List Ty) (body : Expr) :
    inferFunction ⟨scalar, strict⟩ ctx params body =
        inferFunction ⟨scalar, lax⟩ ctx params body ∨
      ∃ failure, (inferFunction ⟨scalar, strict⟩ ctx params body).1 = .error failure ∧
        failure.isRestriction := by
  unfold inferFunction ExceptT.run StateT.run
  rcases restricts.checkBody_narrows scalar params body { context := ctx.internAll params } with
    same | ⟨failure, later, failed, restriction⟩
  · rw [same]
    exact .inl rfl
  · rw [failed]
    exact .inr ⟨failure, rfl, restriction⟩

end Settings.Restricts

/-- A method is called somewhere in the expression. -/
def Expr.Calls (e : Expr) : Prop := ∃ receiver method args, .call receiver method args ∈ e.postorder

/-- A call is typed only where the settings allow string operations. -/
theorem stringOps_of_call {env : TypingEnv} {params : List Ty} {node : Node}
    (typed : nodeOf env params (.call receiver name args) = .ok node) : env.settings.stringOps := by
  rw [nodeOf] at typed
  obtain ⟨_, _, typed⟩ := bind_eq_ok_iff.mp typed
  obtain ⟨_, _, typed⟩ := bind_eq_ok_iff.mp typed
  obtain ⟨method, called, _⟩ := bind_eq_ok_iff.mp typed
  have found := calledMethod_eq_ok_iff.mp called
  exact (Attribute.resolve_eq_method_iff.mp found).2.2

/-- Settings only restrict: a function that is typed under stricter settings is typed under laxer
ones with the same result and the same context, and one that is typed under the laxer settings
alone fails because of the settings. Without string operations no function that calls a method
is typed. -/
theorem inferFunction_restricts (scalar : ScalarTyping) (strict lax : Settings)
    (restricts : strict.Restricts lax) (ctx : Context) (params : List Ty) (body : Expr) :
    (∀ function grown, inferFunction ⟨scalar, strict⟩ ctx params body = (.ok function, grown) →
      inferFunction ⟨scalar, lax⟩ ctx params body = (.ok function, grown)) ∧
    (∀ function failure, (inferFunction ⟨scalar, lax⟩ ctx params body).1 = .ok function →
      (inferFunction ⟨scalar, strict⟩ ctx params body).1 = .error failure →
      (∃ operation, failure = .stringsDisabled operation) ∨
        ∃ expected actual, failure = .argumentMismatch "Masked" expected actual) ∧
    (strict.stringOps = false → body.Calls →
      ∃ failure, (inferFunction ⟨scalar, strict⟩ ctx params body).1 = .error failure) := by
  refine ⟨?_, ?_, ?_⟩
  · intro function grown success
    rcases restricts.inferFunction_narrows scalar ctx params body with same | ⟨failure, failed, _⟩
    · rw [← same]
      exact success
    · rw [success] at failed
      cases failed
  · intro function failure success failed
    apply TypeError.isRestriction_iff.mp
    rcases restricts.inferFunction_narrows scalar ctx params body with same | ⟨actual, ran, cause⟩
    · rw [same, success] at failed
      cases failed
    · rw [failed] at ran
      cases ran
      exact cause
  · intro off calls
    obtain ⟨receiver, method, args, member⟩ := calls
    cases outcome : inferFunction ⟨scalar, strict⟩ ctx params body with
    | mk answer grown =>
      cases answer with
      | error failure => exact ⟨failure, rfl⟩
      | ok function =>
        obtain ⟨type, packed, shown⟩ := inferFunction_shows outcome
        obtain ⟨index, found⟩ := List.mem_iff_getElem?.mp member
        obtain ⟨node, _, typed, _⟩ := shown.node_at found
        have allowed : strict.stringOps := stringOps_of_call typed
        rw [off] at allowed
        cases allowed

def millisecondsOnly : Settings := { timeUnits := [.ms], stringOps := false }

def chosenInstant : Expr :=
  .ifElse (.param 2) (.masked (.param 0) (.literal (.bool true)))
    (.masked (.param 1) (.literal (.bool true)))

/-- Two instants in milliseconds are masked alike under both settings; one in nanoseconds, met
after the other was recorded, is refused; so is a method. -/
theorem chosenInstant_restricts :
    millisecondsOnly.Restricts {} ∧
      (∃ function grown,
        inferFunction ⟨.numeric, millisecondsOnly⟩ .initial
            [.primitive (.datetime .ms), .primitive (.datetime .ms), .bool] chosenInstant =
          (.ok function, grown) ∧
        inferFunction ⟨.numeric, {}⟩ .initial
            [.primitive (.datetime .ms), .primitive (.datetime .ms), .bool] chosenInstant =
          (.ok function, grown)) ∧
      (∃ function failure,
        (inferFunction ⟨.numeric, {}⟩ .initial
            [.primitive (.datetime .ms), .primitive (.datetime .ns), .bool] chosenInstant).1 =
          .ok function ∧
        (inferFunction ⟨.numeric, millisecondsOnly⟩ .initial
            [.primitive (.datetime .ms), .primitive (.datetime .ns), .bool] chosenInstant).1 =
          .error failure ∧
        ((∃ operation, failure = .stringsDisabled operation) ∨
          ∃ expected actual, failure = .argumentMismatch "Masked" expected actual)) ∧
      ∃ failure,
        (inferFunction ⟨.numeric, millisecondsOnly⟩ .initial [.maskedString]
            (.call (.param 0) "upper" [])).1 = .error failure := by
  have restricts : millisecondsOnly.Restricts {} := ⟨rfl, rfl, by decide, by decide⟩
  have general := inferFunction_restricts .numeric _ _ restricts .initial
  refine ⟨restricts, ?_, ?_, ?_⟩
  · have typed : (inferFunction ⟨.numeric, millisecondsOnly⟩ .initial
        [.primitive (.datetime .ms), .primitive (.datetime .ms), .bool] chosenInstant).1.isOk := by
      decide +kernel
    cases outcome : inferFunction ⟨.numeric, millisecondsOnly⟩ .initial
        [.primitive (.datetime .ms), .primitive (.datetime .ms), .bool] chosenInstant with
    | mk answer grown =>
      cases answer with
      | error failure =>
        rw [outcome] at typed
        cases typed
      | ok function => exact ⟨function, grown, rfl, (general _ _).1 function grown outcome⟩
  · have typed : (inferFunction ⟨.numeric, {}⟩ .initial
        [.primitive (.datetime .ms), .primitive (.datetime .ns), .bool] chosenInstant).1.isOk := by
      decide +kernel
    have failed : (inferFunction ⟨.numeric, millisecondsOnly⟩ .initial
        [.primitive (.datetime .ms), .primitive (.datetime .ns), .bool] chosenInstant).1 =
        .error (.argumentMismatch "Masked" "a temporal value in one of [ms]" "datetime64[ns]") := by
      decide +kernel
    cases outcome : (inferFunction ⟨.numeric, {}⟩ .initial
        [.primitive (.datetime .ms), .primitive (.datetime .ns), .bool] chosenInstant).1 with
    | error failure =>
      rw [outcome] at typed
      cases typed
    | ok function => exact ⟨function, _, rfl, failed, (general _ _).2.1 function _ outcome failed⟩
  · refine (general _ _).2.2 rfl ⟨.param 0, "upper", [], ?_⟩
    simp [Expr.postorder]

end RowTyping
