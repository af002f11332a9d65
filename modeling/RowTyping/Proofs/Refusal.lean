import RowTyping.Proofs.Failure
import RowTyping.Proofs.NodeNumbering

namespace RowTyping

variable {settings : Settings} {env : TypingEnv} {operation : Operation} {operands : List Ty}
  {a b : Ty} {failure : TypeError} {signature : Signature}

/-! The domain is a property of the table alone. -/

/-- One or two operands, none of them known by name only, and `NA` only opposite a mask. -/
structure Operable (operands : List Ty) : Prop where
  count : operands.length = 1 ∨ operands.length = 2
  known : ∀ name, Ty.external name ∉ operands
  missing : Ty.null ∈ operands →
    ∃ held, operands = [.null, .masked held] ∨ operands = [.masked held, .null]

/-- Kinds of the operands that are there: plain values and masks. -/
def Kind.isPresent (kind : Kind) : Bool := kind = .masked || kind.isValue

/-- The patterns of operands that are there, and of `NA` opposite a mask. -/
inductive Pattern.IsOperable : Pattern → Prop where
  | one : kind.isPresent → IsOperable (.one kind)
  | two : left.isPresent → right.isPresent → IsOperable (.two left right)
  | nullLeft : IsOperable (.two .null .masked)
  | nullRight : IsOperable (.two .masked .null)

private theorem Kind.isPresent_of_isValue (value : Kind.isValue kind) : kind.isPresent := by
  simp [isPresent, value]

private theorem Kind.isPresent_of_isMaskable (maskable : Kind.isMaskable kind) :
    kind.isPresent := by
  cases kind with
  | stringLiteral | masked | null | external => cases maskable
  | _ => rfl

private theorem Rule.find?_isOperable (found : find? operation pattern = some rule) :
    pattern.IsOperable := by
  unfold find? at found
  split at found
  case h_1 => exact .two rfl rfl
  case h_2 | h_9 => exact .nullRight
  case h_3 | h_10 => exact .nullLeft
  case h_4 =>
    split at found
    next value => exact .two rfl (Kind.isPresent_of_isValue value)
    next => cases found
  case h_5 =>
    split at found
    next value => exact .two (Kind.isPresent_of_isValue value) rfl
    next => cases found
  case h_6 =>
    split at found
    next values =>
      rw [Bool.and_eq_true] at values
      exact .two (Kind.isPresent_of_isValue values.1) (Kind.isPresent_of_isValue values.2)
    next => cases found
  case h_15 =>
    split at found
    next maskable => exact .two (Kind.isPresent_of_isMaskable maskable) rfl
    next => cases found
  case h_20 => cases found
  -- The other rows take one operand.
  all_goals exact .one rfl

private theorem Ty.ne_of_isPresent (present : a.kind.isPresent) :
    (∀ name, .external name ≠ a) ∧ .null ≠ a := by
  cases a with
  | external | null => cases present
  | _ => simp

private theorem Ty.eq_null_of_kind (kind : a.kind = .null) : a = .null := by
  cases a <;> cases kind
  rfl

private theorem Ty.eq_masked_of_kind (kind : a.kind = .masked) : ∃ held, a = .masked held := by
  cases a <;> cases kind
  exact ⟨_, rfl⟩

private theorem operable_singleton (operable : Pattern.IsOperable (.one a.kind)) :
    Operable [a] := by
  cases operable with
  | one present =>
    obtain ⟨known, there⟩ := Ty.ne_of_isPresent present
    refine ⟨.inl rfl, ?_, ?_⟩
    · intro name member
      exact known name (List.mem_singleton.mp member)
    · intro member
      exact absurd (List.mem_singleton.mp member) there

private theorem IsOperable.two_cases (operable : Pattern.IsOperable (.two left right)) :
    left.isPresent ∧ right.isPresent ∨ left = .null ∧ right = .masked ∨
      left = .masked ∧ right = .null := by
  cases operable with
  | two first second => exact .inl ⟨first, second⟩
  | nullLeft => exact .inr (.inl ⟨rfl, rfl⟩)
  | nullRight => exact .inr (.inr ⟨rfl, rfl⟩)

private theorem operable_pair (operable : Pattern.IsOperable (.two a.kind b.kind)) :
    Operable [a, b] := by
  rcases IsOperable.two_cases operable with ⟨first, second⟩ | ⟨first, second⟩ | ⟨first, second⟩
  · obtain ⟨known, there⟩ := Ty.ne_of_isPresent first
    obtain ⟨known', there'⟩ := Ty.ne_of_isPresent second
    exact ⟨.inr rfl, by simp [known, known'], by simp [there, there']⟩
  · obtain ⟨held, rfl⟩ := Ty.eq_masked_of_kind second
    cases Ty.eq_null_of_kind first
    exact ⟨.inr rfl, by simp, fun _ => ⟨held, .inl rfl⟩⟩
  · obtain ⟨held, rfl⟩ := Ty.eq_masked_of_kind first
    cases Ty.eq_null_of_kind second
    exact ⟨.inr rfl, by simp, fun _ => ⟨held, .inr rfl⟩⟩

theorem resolve_operable (resolved : resolve env operation operands = .ok signature) :
    Operable operands := by
  unfold resolve at resolved
  split at resolved
  next rule found =>
    obtain ⟨pattern, shape, found⟩ := Option.bind_eq_some_iff.mp found
    have operable := Rule.find?_isOperable found
    unfold Pattern.ofOperands? at shape
    split at shape
    · cases shape
      exact operable_singleton operable
    · cases shape
      exact operable_pair operable
    · cases shape
  next => cases resolved

/-! The ways to fail, operation by operation. -/

/-- The length of a masked string while string operations are off. -/
def LengthDisabled (settings : Settings) (operation : Operation) (operands : List Ty) : Prop :=
  operation = .len ∧ operands = [.maskedString] ∧ settings.stringOps = false

/-- The flag is no truth value, or the value counts in a unit that the settings leave out. -/
def Settings.RefusesMask (settings : Settings) (value : Ty) (flag : Primitive) : Prop :=
  flag ≠ .bool ∨
    ∃ p unit, value = .primitive p ∧ p.unit? = some unit ∧ unit ∉ settings.timeUnits

/-- A mask over a value that masks can cover, with a primitive for its flag, which is refused. -/
def MaskRefused (settings : Settings) (operation : Operation) (operands : List Ty) : Prop :=
  operation = .construct ∧ ∃ value flag, operands = [value, .primitive flag] ∧
    (value.isPrimitive ∨ value.isStoredString) ∧ settings.RefusesMask value flag

/-- Why an operation is refused: it has no rule for the operands, or the settings or the flag of
a mask are against it. -/
def Refused (settings : Settings) (operation : Operation) (operands : List Ty)
    (failure : TypeError) : Prop :=
  failure = operation.decline operands ∨
    (LengthDisabled settings operation operands ∧ failure = .stringsDisabled operation.name) ∨
    (MaskRefused settings operation operands ∧
      ∃ expected actual, failure = .argumentMismatch operation.name expected actual)

private theorem liftedSignatureOr_fails {value : Option Ty} (masked : Bool)
    (primitive : ∀ ty, value = some ty → ∃ p, ty = .primitive p) :
    FailsOnly (· = failure) (liftedSignatureOr failure operands masked value) := by
  cases value with
  | none => exact .error rfl
  | some ty =>
    obtain ⟨p, rfl⟩ := primitive ty rfl
    rw [liftedSignatureOr, Ty.lift_primitive]
    exact .ok _

private theorem resolve_binary_fails (op : BinaryOp) (a b : Ty) :
    FailsOnly (· = .noOverload op.symbol [a.name, b.name])
      (resolve ⟨.numeric, settings⟩ (.binary op) [a, b]) := by
  by_cases left : a = .null
  · subst left
    rw [resolve_binary_null_left]
    split
    · exact .ok _
    · exact .error rfl
  by_cases right : b = .null
  · subst right
    rw [resolve_binary_null_right]
    split
    · exact .ok _
    · exact .error rfl
  rw [resolve_binary left right]
  exact liftedSignatureOr_fails _ fun _ => binaryValue?_primitive

private theorem resolve_isNull_fails (env : TypingEnv) (a b : Ty) :
    FailsOnly (· = .noOverload "is" [a.name, b.name]) (resolve env .isNull [a, b]) := by
  cases a with
  | masked value =>
    cases b with
    | null => exact .ok _
    | _ => exact .error rfl
  | null =>
    cases b with
    | masked value => exact .ok _
    | _ => exact .error rfl
  | _ => cases b <;> exact .error rfl

private theorem resolve_truth_fails (env : TypingEnv) (a : Ty) :
    FailsOnly (· = .noOverload "bool" [a.name]) (resolve env .truth [a]) := by
  rw [resolve_truth]
  split
  · exact .ok _
  · exact .error rfl

private theorem resolve_pack_fails (env : TypingEnv) (a : Ty) :
    FailsOnly (· = .invalidReturn a.name) (resolve env .pack [a]) := by
  cases a with
  | masked | primitive => exact .ok _
  | _ => exact .error rfl

private theorem resolve_len_fails (settings : Settings) (a : Ty) :
    FailsOnly (Refused settings .len [a]) (resolve ⟨.numeric, settings⟩ .len [a]) := by
  rw [resolve_len]
  split
  next disabled =>
    rw [Bool.and_eq_true, decide_eq_true_eq, Bool.not_eq_true'] at disabled
    obtain ⟨rfl, off⟩ := disabled
    exact .error (.inr (.inl ⟨⟨rfl, rfl, off⟩, rfl⟩))
  next =>
    refine (liftedSignatureOr_fails _ fun _ => lengthValue?_primitive).imp ?_
    rintro _ rfl
    exact .inl rfl

private theorem constructSignature_refused {scalar : ScalarTyping} {flag : Primitive}
    (refuses : settings.RefusesMask a flag) :
    ∃ expected actual, Rule.constructSignature ⟨scalar, settings⟩ .construct a (.primitive flag) =
      .error (.argumentMismatch "Masked" expected actual) := by
  unfold Rule.constructSignature
  by_cases plain : flag = .bool
  · obtain ⟨p, unit, rfl, counts, left⟩ := refuses.resolve_left (not_not.mpr plain)
    have unaccepted : settings.accepts unit = false := by
      simpa [Settings.accepts] using left
    have unit? : (Ty.primitive p).primitive?.bind Primitive.unit? = some unit := counts
    subst plain
    simp [unit?, unaccepted, Ty.bool, Operation.name]
  · have noFlag : Ty.primitive flag ≠ .bool := fun same => plain (Ty.primitive.inj same)
    simp [noFlag, Operation.name]

private theorem constructSignature_accepted {scalar : ScalarTyping} {flag : Primitive}
    (covered : a.isPrimitive ∨ a.isStoredString) (accepted : ¬ settings.RefusesMask a flag) :
    ∃ signature, Rule.constructSignature ⟨scalar, settings⟩ .construct a (.primitive flag) =
      .ok signature := by
  have masks : ∃ masked, a.mask = .ok masked := by
    cases a with
    | primitive p => exact ⟨.masked (.primitive p), rfl⟩
    | stringView | ownedString => exact ⟨.maskedString, rfl⟩
    | _ => simp [Ty.isPrimitive, Ty.isStoredString] at covered
  obtain ⟨masked, masks⟩ := masks
  obtain ⟨plain, units⟩ := not_or.mp accepted
  cases not_not.mp plain
  have flag : ¬ Ty.primitive .bool ≠ .bool := not_not.mpr rfl
  simp only [Rule.constructSignature, if_neg flag, masks]
  split
  next unit counts =>
    obtain ⟨p, found, counts⟩ := Option.bind_eq_some_iff.mp counts
    have same : a = .primitive p := by
      cases a <;> cases found
      rfl
    have configured : settings.accepts unit = true := by
      by_contra left
      exact units ⟨p, unit, same, counts, by simpa [Settings.accepts] using left⟩
    rw [if_pos configured]
    exact ⟨_, rfl⟩
  next => exact ⟨_, rfl⟩

/-- The rule for masks is found for a primitive flag and a value that masks can cover. -/
theorem resolve_construct_covered (env : TypingEnv) (covered : a.isPrimitive ∨ a.isStoredString)
    (flag : Primitive) :
    resolve env .construct [a, .primitive flag] =
      Rule.constructSignature env .construct a (.primitive flag) := by
  cases a with
  | primitive | stringView | ownedString => rfl
  | _ => simp [Ty.isPrimitive, Ty.isStoredString] at covered

private theorem resolve_construct_fails (settings : Settings) (a b : Ty) :
    FailsOnly (Refused settings .construct [a, b])
      (resolve ⟨.numeric, settings⟩ .construct [a, b]) := by
  cases b with
  | primitive flag =>
    by_cases covered : a.isPrimitive ∨ a.isStoredString
    · rw [resolve_construct_covered _ covered]
      by_cases refuses : settings.RefusesMask a flag
      · obtain ⟨expected, actual, failed⟩ := constructSignature_refused refuses
        rw [failed]
        exact .error (.inr (.inr ⟨⟨rfl, a, flag, rfl, covered, refuses⟩, expected, actual, rfl⟩))
      · obtain ⟨signature, typed⟩ := constructSignature_accepted covered refuses
        rw [typed]
        exact .ok _
    · cases a with
      | primitive | stringView | ownedString => simp [Ty.isPrimitive, Ty.isStoredString] at covered
      | _ => exact .error (.inl rfl)
  | _ => cases a <;> exact .error (.inl rfl)

theorem resolve_refused (settings : Settings) (operation : Operation) (operands : List Ty) :
    FailsOnly (Refused settings operation operands)
      (resolve ⟨.numeric, settings⟩ operation operands) := by
  have declined {outcome : Except TypeError Signature}
      (fails : FailsOnly (· = operation.decline operands) outcome) :
      FailsOnly (Refused settings operation operands) outcome := fails.imp fun _ => .inl
  match operands with
  | [] => exact .error (.inl rfl)
  | [a] =>
    cases operation with
    | unary op =>
      apply declined
      rw [resolve_unary]
      exact liftedSignatureOr_fails _ fun _ => unaryValue?_primitive
    | truth => exact declined (resolve_truth_fails _ a)
    | pack => exact declined (resolve_pack_fails _ a)
    | len => exact resolve_len_fails settings a
    | binary | isNull | construct => exact .error (.inl rfl)
  | [a, b] =>
    cases operation with
    | binary op => exact declined (resolve_binary_fails op a b)
    | isNull => exact declined (resolve_isNull_fails _ a b)
    | construct => exact resolve_construct_fails settings a b
    | unary | truth | pack | len => exact .error (.inl rfl)
  | _ :: _ :: _ :: _ => exact .error (.inl rfl)

/-- Whether the failure says that there is no rule for the operands. -/
def TypeError.isDecline : TypeError → Bool
  | .noOverload _ _ | .invalidReturn _ => true
  | _ => false

theorem Operation.isDecline_of_eq (declined : failure = operation.decline operands) :
    failure.isDecline := by
  subst declined
  unfold decline
  split
  · rfl
  · rfl

/-- An operation other than the packing of one result is refused by name, with all its operands. -/
theorem Operation.decline_cases (operation : Operation) (operands : List Ty) :
    (∃ ty, operation = .pack ∧ operands = [ty] ∧
        operation.decline operands = .invalidReturn ty.name) ∨
      ¬ (operation = .pack ∧ operands.length = 1) ∧
        operation.decline operands = .noOverload operation.name (operands.map Ty.name) := by
  unfold decline
  split
  next ty => exact .inl ⟨ty, rfl, rfl, rfl⟩
  next other =>
    refine .inr ⟨?_, rfl⟩
    rintro ⟨pack, single⟩
    obtain ⟨ty, rfl⟩ := List.length_eq_one_iff.mp single
    exact other ty pack rfl

theorem LengthDisabled.resolve_eq (disabled : LengthDisabled settings operation operands) :
    resolve ⟨.numeric, settings⟩ operation operands = .error (.stringsDisabled "len") := by
  obtain ⟨rfl, rfl, off⟩ := disabled
  rw [resolve_len]
  simp [off]

theorem MaskRefused.resolve_eq (refused : MaskRefused settings operation operands) :
    ∃ expected actual, resolve ⟨.numeric, settings⟩ operation operands =
      .error (.argumentMismatch "Masked" expected actual) := by
  obtain ⟨rfl, value, flag, rfl, covered, refuses⟩ := refused
  rw [resolve_construct_covered _ covered]
  exact constructSignature_refused refuses

/-- What the typing of an operation by promotion may come to. -/
structure ResolutionLaws (settings : Settings) (operation : Operation) (operands : List Ty)
    (outcome : Except TypeError Signature) : Prop where
  ok : ∀ signature, outcome = .ok signature →
    Operable operands ∧ signature.args = operands ∧ signature.receiver = none
  packed : ∀ ty failure, operation = .pack → operands = [ty] → outcome = .error failure →
    failure = .invalidReturn ty.name
  disabled : (∃ feature, outcome = .error (.stringsDisabled feature)) ↔
    LengthDisabled settings operation operands
  mismatch : (∃ callee expected actual,
      outcome = .error (.argumentMismatch callee expected actual)) ↔
    MaskRefused settings operation operands
  /-- Every other failure names the operation and its operands, in order. -/
  declined : ∀ failure, outcome = .error failure → ¬ (operation = .pack ∧ operands.length = 1) →
    ¬ LengthDisabled settings operation operands → ¬ MaskRefused settings operation operands →
    failure = .noOverload operation.name (operands.map Ty.name) ∧
      failure.message = "No applicable overload of `" ++ operation.name ++ "` for operands (" ++
        ", ".intercalate (operands.map Ty.name) ++ ")"
  supported : ∀ found, outcome ≠ .error (.unsupportedValue found)

/-- Operations take one or two operands that are there, or `NA` opposite a mask, and each way in
which they fail has its own cause. -/
theorem resolve_follows_laws (settings : Settings) (operation : Operation) (operands : List Ty) :
    ResolutionLaws settings operation operands
      (resolve ⟨.numeric, settings⟩ operation operands) where
  ok signature resolved := ⟨resolve_operable resolved, resolve_lists resolved⟩
  packed ty failure := by
    rintro rfl rfl failed
    exact resolve_pack_fails _ ty failure failed
  disabled := by
    constructor
    · rintro ⟨feature, failed⟩
      rcases resolve_refused settings operation operands _ failed with
        declined | ⟨disabled, _⟩ | ⟨_, _, _, mismatch⟩
      · cases Operation.isDecline_of_eq declined
      · exact disabled
      · cases mismatch
    · intro disabled
      exact ⟨"len", disabled.resolve_eq⟩
  mismatch := by
    constructor
    · rintro ⟨callee, expected, actual, failed⟩
      rcases resolve_refused settings operation operands _ failed with
        declined | ⟨_, disabled⟩ | ⟨refused, _⟩
      · cases Operation.isDecline_of_eq declined
      · cases disabled
      · exact refused
    · intro refused
      exact ⟨"Masked", refused.resolve_eq⟩
  declined failure failed noPack enabled accepted := by
    have same : failure = .noOverload operation.name (operands.map Ty.name) := by
      rcases resolve_refused settings operation operands _ failed with
        declined | ⟨disabled, _⟩ | ⟨refused, _⟩
      · rcases operation.decline_cases operands with ⟨ty, pack, single, _⟩ | ⟨_, same⟩
        · exact absurd ⟨pack, by rw [single]; rfl⟩ noPack
        · exact declined.trans same
      · exact absurd disabled enabled
      · exact absurd refused accepted
    subst same
    exact ⟨rfl, rfl⟩
  supported found failed := by
    cases resolve_misuses settings operation operands _ failed

end RowTyping
