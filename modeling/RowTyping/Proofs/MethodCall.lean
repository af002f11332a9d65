import RowTyping.Proofs.Composition
import RowTyping.Proofs.Elaboration
import RowTyping.Proofs.JoinQuery

namespace RowTyping

open Foreign

variable {env : TypingEnv} {receiver : Ty} {name : String} {args : List Ty} {failure : TypeError}
  {signature : Signature} {method : StringMethod} {routine : Routine}

namespace Foreign.Routine

/-- The type of a call: a new masked string if the routine writes one, else what it returns. -/
def callType (routine : Routine) : Ty :=
  if routine.hasOutput then .maskedString
  else
    match routine.result with
    | .bool => .bool
    | .length | .index | .status => .primitive (.int .w32)

theorem lookup?_eq_some_iff :
    lookup? name = some routine ↔ routine ∈ all ∧ routine.name = name := by
  constructor
  · intro found
    exact ⟨List.mem_of_find?_eq_some found, by simpa using List.find?_some found⟩
  · rintro ⟨member, rfl⟩
    have table : ∀ routine ∈ all, lookup? routine.name = some routine := by decide
    exact table routine member

end Foreign.Routine

namespace StringMethod

theorem routine_bound_iff :
    (∃ method : StringMethod, method.routine = routine) ↔
      routine ∈ Routine.all ∧ routine ≠ .length ∧ routine ≠ .materialize := by
  constructor
  · rintro ⟨method, rfl⟩
    cases method <;> decide
  · rintro ⟨member, noLength, noCopy⟩
    have table : ∀ routine ∈ Routine.all, routine = .length ∨ routine = .materialize ∨
        ∃ method ∈ StringMethod.all, method.routine = routine := by decide
    rcases table routine member with length | copy | ⟨method, _, same⟩
    · exact absurd length noLength
    · exact absurd copy noCopy
    · exact ⟨method, same⟩

private theorem result_eq_callType (method : StringMethod) :
    method.result = method.routine.callType := by
  unfold result Routine.callType
  cases method.routine.result <;> rfl

/-- What is wrong with the arguments of a call: their number, or else the first one that is no
masked string. -/
def Blames (method : StringMethod) (args : List Ty) (failure : TypeError) : Prop :=
  (args.length ≠ method.routine.inputs.length - 1 ∧
    failure = .argumentCount method.name (method.routine.inputs.length - 1) args.length) ∨
  (args.length = method.routine.inputs.length - 1 ∧
    ∃ before arg after, args = before ++ arg :: after ∧
      (∀ earlier ∈ before, earlier = .maskedString) ∧ arg ≠ .maskedString ∧
      failure = .argumentMismatch method.name "Masked(owned_string)" arg.name)

/-- On a masked string, and with string operations on, a call fails only in its arguments. -/
theorem signature_blames (allowed : env.settings.stringOps) :
    FailsOnly (method.Blames args) (method.signature env .maskedString args) := by
  unfold StringMethod.signature
  rw [if_neg (not_not.mpr rfl), TypingEnv.requireStrings_eq_ok_iff.mpr allowed]
  dsimp only
  split
  next wrong => exact .error (.inl ⟨wrong, rfl⟩)
  next count =>
    split
    next arg found =>
      obtain ⟨stray, before, after, same, fits⟩ := List.find?_eq_some_iff_append.mp found
      refine .error (.inr ⟨not_not.mp count, before, arg, after, same, ?_, ?_, rfl⟩)
      · simpa using fits
      · simpa using stray
    next => exact .ok _

end StringMethod

/-- The row of the table that a call is typed by. The receiver and the arguments are the inputs of
the routine. -/
structure CallTyped (env : TypingEnv) (receiver : Ty) (name : String) (args : List Ty)
    (routine : Routine) (signature : Signature) : Prop where
  allowed : env.settings.stringOps
  text : receiver = .maskedString
  listed : Routine.lookup? name = some routine
  notLength : routine ≠ .length
  notCopy : routine ≠ .materialize
  inputs : args = List.replicate (routine.inputs.length - 1) .maskedString
  typed : signature = ⟨routine.callType, args, some receiver⟩

theorem callTyped_routine_iff :
    CallTyped env receiver name args method.routine signature ↔
      Attribute.resolve env receiver name = .ok (.method method) ∧
        method.signature env receiver args = .ok signature := by
  rw [Attribute.resolve_eq_method_iff, StringMethod.signature_eq_ok_iff,
    StringMethod.ofName?_eq_some_iff, StringMethod.result_eq_callType]
  constructor
  · rintro ⟨allowed, text, listed, -, -, inputs, typed⟩
    have named : method.name = name := (Routine.lookup?_eq_some_iff.mp listed).2
    exact ⟨⟨text, named, allowed⟩, text, allowed, inputs, typed⟩
  · rintro ⟨⟨text, named, allowed⟩, -, -, inputs, typed⟩
    obtain ⟨member, notLength, notCopy⟩ := StringMethod.routine_bound_iff.mp ⟨method, rfl⟩
    exact ⟨allowed, text, Routine.lookup?_eq_some_iff.mpr ⟨member, named⟩, notLength, notCopy,
      inputs, typed⟩

theorem CallTyped.bound (call : CallTyped env receiver name args routine signature) :
    ∃ method : StringMethod, method.routine = routine :=
  StringMethod.routine_bound_iff.mpr
    ⟨(Routine.lookup?_eq_some_iff.mp call.listed).1, call.notLength, call.notCopy⟩

private theorem exists_callTyped_iff :
    (∃ routine, CallTyped env receiver name args routine signature) ↔
      ∃ method, Attribute.resolve env receiver name = .ok (.method method) ∧
        method.signature env receiver args = .ok signature := by
  constructor
  · rintro ⟨routine, call⟩
    obtain ⟨method, rfl⟩ := call.bound
    exact ⟨method, callTyped_routine_iff.mp call⟩
  · rintro ⟨method, typed⟩
    exact ⟨method.routine, callTyped_routine_iff.mpr typed⟩

section Expressions

variable {params : List Ty} {base : Expr} {exprs : List Expr} {type : Ty}

private theorem argTypesOf_of_typesAs
    (each : List.Forall₂ (fun arg type => arg.TypesAs env params type) exprs args) :
    argTypesOf env params exprs = .ok args := by
  induction each with
  | nil => rfl
  | cons head _ ih =>
    rw [argTypesOf_cons, Expr.typesAs_iff.mp head, ih]
    rfl

/-- A call in an expression has the result of the row that types it, and no type otherwise. -/
theorem call_typesAs_iff (receives : base.TypesAs env params receiver)
    (each : List.Forall₂ (fun arg type => arg.TypesAs env params type) exprs args) :
    (Expr.call base name exprs).TypesAs env params type ↔
      ∃ routine signature, CallTyped env receiver name args routine signature ∧
        signature.result = type := by
  rw [Expr.typesAs_iff, typeOf_call, Expr.typesAs_iff.mp receives, argTypesOf_of_typesAs each]
  change (calledMethod env receiver name >>= fun method =>
    method.signature env receiver args >>= fun signature => pure signature.result) = _ ↔ _
  constructor
  · intro typed
    obtain ⟨method, called, typed⟩ := bind_eq_ok_iff.mp typed
    obtain ⟨signature, accepted, typed⟩ := bind_eq_ok_iff.mp typed
    cases typed
    have found := calledMethod_eq_ok_iff.mp called
    exact ⟨method.routine, signature, callTyped_routine_iff.mpr ⟨found, accepted⟩, rfl⟩
  · rintro ⟨routine, signature, call, rfl⟩
    obtain ⟨method, rfl⟩ := call.bound
    obtain ⟨found, accepted⟩ := callTyped_routine_iff.mp call
    exact bind_eq_ok_iff.mpr ⟨method, calledMethod_eq_ok_iff.mpr found,
      bind_eq_ok_iff.mpr ⟨signature, accepted, rfl⟩⟩

end Expressions

namespace Command

open Answering

variable {settings : Settings} {receiverText : String} {argTexts : List String}

def callSpans (name : String) (signature : Signature) (routine : Routine) : List Span :=
  Span.field name signature.text ++ Span.field "lowers to" routine.prototype

section Queries

variable (readReceiver : Ty.ofName receiverText = .ok receiver)
  (readArgs : argTexts.mapM Ty.ofName = .ok args) (transcript : Transcript)
include readReceiver readArgs

private theorem answerMethod_typed
    (call : CallTyped (envOf settings) receiver name args routine signature) :
    ∃ later, answerMethod settings receiverText name argTexts transcript = (.ok (), later) ∧
      later.output = transcript.output ++ callSpans name signature routine := by
  obtain ⟨method, rfl⟩ := call.bound
  obtain ⟨found, accepted⟩ := callTyped_routine_iff.mp call
  unfold answerMethod
  rw [readReceiver, bind_ok (typed_ok _ _), readArgs, bind_ok (typed_ok _ _), found,
    bind_ok (typed_ok _ _)]
  dsimp only
  rw [accepted, bind_ok (typed_ok _ _), bind_ok (note_run _ _ _), bind_ok (say_run _ _)]
  refine ⟨_, say_run _ _, ?_⟩
  exact List.append_assoc _ _ _

/-- A name that is neither of a field nor of a row says nothing. -/
theorem answerMethod_untyped
    (notMember : ∀ type, Attribute.resolve (envOf settings) receiver name ≠ .ok (.member type))
    (untyped : ∀ routine signature,
      ¬ CallTyped (envOf settings) receiver name args routine signature) :
    ∃ failure, answerMethod settings receiverText name argTexts transcript =
      (.error (.type failure), transcript) := by
  unfold answerMethod
  rw [readReceiver, bind_ok (typed_ok _ _), readArgs, bind_ok (typed_ok _ _)]
  cases found : Attribute.resolve (envOf settings) receiver name with
  | error failure => exact ⟨failure, bind_error (typed_error _ _)⟩
  | ok answer =>
    rw [bind_ok (typed_ok _ _)]
    cases answer with
    | member type => exact absurd found (notMember type)
    | method bound =>
      dsimp only
      cases accepted : bound.signature (envOf settings) receiver args with
      | error failure => exact ⟨failure, bind_error (typed_error _ _)⟩
      | ok signature =>
        exact absurd (callTyped_routine_iff.mpr ⟨found, accepted⟩) (untyped _ signature)

end Queries

end Command

/-- What the table of routines decides about a call: its signature, the only ways in which a method
that was found can still fail, the type of the call in an expression, and the answer to a query. -/
structure CallLaws (env : TypingEnv) (receiver : Ty) (name : String) (args : List Ty) : Prop where
  signatures : ∀ signature,
    (∃ method, Attribute.resolve env receiver name = .ok (.method method) ∧
      method.signature env receiver args = .ok signature) ↔
      ∃ routine, CallTyped env receiver name args routine signature
  failures : ∀ method failure, Attribute.resolve env receiver name = .ok (.method method) →
    method.signature env receiver args = .error failure → method.Blames args failure
  expressions : ∀ params base exprs, base.TypesAs env params receiver →
    List.Forall₂ (fun arg type => arg.TypesAs env params type) exprs args →
    ∀ type, (Expr.call base name exprs).TypesAs env params type ↔
      ∃ routine signature, CallTyped env receiver name args routine signature ∧
        signature.result = type
  answered : ∀ settings receiverText argTexts transcript routine signature,
    env = Command.envOf settings → Ty.ofName receiverText = .ok receiver →
    argTexts.mapM Ty.ofName = .ok args →
    CallTyped env receiver name args routine signature →
    ∃ later, Command.answerMethod settings receiverText name argTexts transcript =
        (.ok (), later) ∧
      later.output = transcript.output ++ Command.callSpans name signature routine
  refused : ∀ settings receiverText argTexts transcript,
    env = Command.envOf settings → Ty.ofName receiverText = .ok receiver →
    argTexts.mapM Ty.ofName = .ok args →
    (∀ type, Attribute.resolve env receiver name ≠ .ok (.member type)) →
    (∀ routine signature, ¬ CallTyped env receiver name args routine signature) →
    ∃ failure, Command.answerMethod settings receiverText name argTexts transcript =
      (.error (.type failure), transcript)

/-- Calls are typed by the table of routines, wherever they are made. -/
theorem calls_follow_routines (env : TypingEnv) (receiver : Ty) (name : String) (args : List Ty) :
    CallLaws env receiver name args where
  signatures signature := exists_callTyped_iff.symm
  failures method failure found failed := by
    obtain ⟨rfl, -, allowed⟩ := Attribute.resolve_eq_method_iff.mp found
    exact StringMethod.signature_blames allowed failure failed
  expressions params base exprs receives each type := call_typesAs_iff receives each
  answered settings receiverText argTexts transcript routine signature same readReceiver readArgs
      call := by
    subst same
    exact Command.answerMethod_typed readReceiver readArgs transcript call
  refused settings receiverText argTexts transcript same readReceiver readArgs notMember
      untyped := by
    subst same
    exact Command.answerMethod_untyped readReceiver readArgs transcript notMember untyped

/-- The place of a string in itself is a plain number, in an expression and in an answer. -/
theorem find_call_answered :
    (Expr.call (.param 0) "find" [.param 0]).TypesAs (Command.envOf {}) [.maskedString]
        (.primitive (.int .w32)) ∧
      ∃ later, Command.answerMethod {} "Masked(owned_string)" "find" ["Masked(owned_string)"] {} =
          (.ok (), later) ∧
        later.output = Command.callSpans "find"
          ⟨.primitive (.int .w32), [.maskedString], some .maskedString⟩ .find := by
  have call : CallTyped (Command.envOf {}) .maskedString "find" [.maskedString] .find
      ⟨.primitive (.int .w32), [.maskedString], some .maskedString⟩ := by
    constructor <;> decide
  have receives : (Expr.param 0).TypesAs (Command.envOf {}) [.maskedString] .maskedString :=
    Expr.typesAs_iff.mpr rfl
  have laws := calls_follow_routines (Command.envOf {}) .maskedString "find" [.maskedString]
  constructor
  · exact (laws.expressions _ _ _ receives (.cons receives .nil) _).mpr ⟨_, _, call, rfl⟩
  · exact laws.answered {} _ _ {} _ _ rfl (by decide +kernel) (by decide +kernel) call

end RowTyping
