import RowTyping.Proofs.Elaboration
import RowTyping.Scalar.Promotion
import Mathlib.Data.List.Nodup

/-! What holds of every context that a run of operations reaches. Typing only interns, also
where it fails, so an operation appends new types and may add one entry to the kept masks;
both leave the ids that were given out before as they are. -/

namespace RowTyping

theorem Context.internAll_append (ctx : Context) (types more : List Ty) :
    ctx.internAll (types ++ more) = (ctx.internAll types).internAll more :=
  List.foldl_append

namespace Check

/-- A step that only interns: whatever its outcome, some types have been interned in turn. -/
def Interns (step : Check α) : Prop :=
  ∀ session, ∃ types, (step session).2.context = session.context.internAll types

theorem Interns.bind {step : Check α} {next : α → Check β} (first : Interns step)
    (rest : ∀ answer, Interns (next answer)) : Interns (step >>= next) := by
  intro session
  obtain ⟨types, same⟩ := first session
  cases ran : step session with
  | mk outcome middle =>
    rw [ran] at same
    cases outcome with
    | error failure =>
      rw [bind_error ran]
      exact ⟨types, same⟩
    | ok answer =>
      obtain ⟨more, later⟩ := rest answer middle
      refine ⟨types ++ more, ?_⟩
      rw [bind_ok ran, later, same, Context.internAll_append]

theorem Interns.pure (answer : α) : Interns (pure answer : Check α) := by
  intro session
  exact ⟨[], rfl⟩

theorem Interns.ofOutcome (outcome : Except TypeError α) : Interns (ofOutcome outcome) := by
  intro session
  exact ⟨[], rfl⟩

theorem Interns.intern (type : Ty) : Interns (intern type) := by
  intro session
  exact ⟨[type], rfl⟩

theorem Interns.record (type : Ty) (signature : Option Signature) :
    Interns (record type signature) := by
  intro session
  exact ⟨[type], rfl⟩

theorem Interns.recordSignature (signature : Signature) : Interns (recordSignature signature) :=
  Interns.record _ _

theorem Interns.convert (node : NodeId) (source target : Ty) (conversion : Conversion) :
    Interns (convert node source target conversion) := by
  intro session
  exact ⟨[source, target], rfl⟩

theorem Interns.convertBranch (env : TypingEnv) (node : NodeId) (branch joined : Ty) :
    Interns (convertBranch env node branch joined) := by
  refine (Interns.ofOutcome _).bind fun conversion => ?_
  split
  · exact Interns.pure ()
  · exact Interns.convert node branch joined conversion

end Check

open Check

variable {env : TypingEnv} {params : List Ty}

private theorem checkArgs_interns {args : List Expr}
    (each : ∀ arg ∈ args, Interns (check env params arg)) :
    Interns (checkArgs env params args) := by
  induction args with
  | nil =>
    rw [checkArgs]
    exact Interns.pure []
  | cons arg rest ih =>
    rw [checkArgs]
    refine (each arg (by simp)).bind fun answer => ?_
    have later := ih fun other member => each other (by simp [member])
    exact later.bind fun types => Interns.pure _

/-- Typing an expression only interns, also where it fails. -/
theorem check_interns (env : TypingEnv) (params : List Ty) (e : Expr) :
    Interns (check env params e) := by
  induction e with
  | literal value =>
    rw [check]
    exact Interns.record _ _
  | param index =>
    rw [check]
    split
    · exact Interns.record _ _
    · exact Interns.ofOutcome _
  | na =>
    rw [check]
    exact Interns.record _ _
  | masked value valid ihValue ihValid =>
    rw [check]
    refine ihValue.bind fun value => ihValid.bind fun valid => ?_
    refine (Interns.ofOutcome _).bind fun signature => ?_
    dsimp only
    split
    · exact (Interns.convert _ _ _ _).bind fun _ => Interns.recordSignature signature
    · exact Interns.recordSignature signature
  | binary op left right ihLeft ihRight =>
    rw [check]
    refine ihLeft.bind fun left => ihRight.bind fun right => ?_
    exact (Interns.ofOutcome _).bind Interns.recordSignature
  | unary op operand ih =>
    rw [check]
    exact ih.bind fun operand => (Interns.ofOutcome _).bind Interns.recordSignature
  | isNull left right ihLeft ihRight =>
    rw [check]
    refine ihLeft.bind fun left => ihRight.bind fun right => ?_
    exact (Interns.ofOutcome _).bind Interns.recordSignature
  | len operand ih =>
    rw [check]
    exact ih.bind fun operand => (Interns.ofOutcome _).bind Interns.recordSignature
  | attr base name ih =>
    rw [check]
    refine ih.bind fun base => (Interns.ofOutcome _).bind fun type => ?_
    exact Interns.record type none
  | call receiver name args ihReceiver ihArgs =>
    rw [check]
    refine ihReceiver.bind fun receiver => (checkArgs_interns ihArgs).bind fun types => ?_
    refine (Interns.ofOutcome _).bind fun method => ?_
    exact (Interns.ofOutcome _).bind Interns.recordSignature
  | ifElse cond thenBranch elseBranch ihCond ihThen ihElse =>
    rw [check]
    refine ihCond.bind fun cond => (Interns.ofOutcome _).bind fun truth => ?_
    refine ihThen.bind fun thenAnswer => ihElse.bind fun elseAnswer => ?_
    refine (Interns.ofOutcome _).bind fun joined => ?_
    refine (Interns.convertBranch _ _ _ _).bind fun _ => ?_
    refine (Interns.convertBranch _ _ _ _).bind fun _ => ?_
    exact Interns.record joined none

theorem inferFunction_interns (env : TypingEnv) (ctx : Context) (params : List Ty) (body : Expr) :
    ∃ types, (inferFunction env ctx params body).2 = ctx.internAll types := by
  have body : Interns (checkBody env params body) := by
    refine (check_interns env params body).bind fun answer => ?_
    refine (Interns.ofOutcome _).bind fun packed => ?_
    refine (Interns.intern _).bind fun bodyId => (Interns.intern _).bind fun packedId => ?_
    exact Interns.pure _
  obtain ⟨types, same⟩ := body { context := ctx.internAll params }
  refine ⟨params ++ types, ?_⟩
  rw [Context.internAll_append]
  exact same

namespace Context

variable {ctx : Context} {ty mask : Ty} {id value : TypeId}

inductive Action where
  | intern (ty : Ty)
  | primitive (type : Primitive)
  | masked (value : TypeId)
  | valueTypeOf (id : TypeId)
  | infer (env : TypingEnv) (params : List Ty) (body : Expr)

/-- The context that an operation leaves, whether it succeeds or fails. -/
def step (ctx : Context) : Action → Context
  | .intern ty => (ctx.intern ty).2
  | .primitive type => (ctx.intern (.primitive type)).2
  | .masked value => (ctx.masked value).2
  | .valueTypeOf id => (ctx.valueTypeOf id).2
  | .infer env params body => (inferFunction env ctx params body).2

def run (ctx : Context) (actions : List Action) : Context := actions.foldl step ctx

/-- Every id that is kept as a mask names the mask over the type of its value. -/
def KeepsMasks (ctx : Context) : Prop :=
  ∀ value mask, (value, mask) ∈ ctx.maskIds →
    ∃ ty masked, ctx.get? value = some ty ∧ ty.mask = .ok masked ∧ ctx.get? mask = some masked

/-- What every operation keeps of a context. -/
structure Valid (ctx : Context) : Prop where
  begins : initial.Grows ctx
  masks : ctx.KeepsMasks
  keys : (ctx.maskIds.map Prod.fst).Nodup

theorem intern_maskIds (ctx : Context) (ty : Ty) : (ctx.intern ty).2.maskIds = ctx.maskIds := rfl

theorem internAll_maskIds (ctx : Context) (types : List Ty) :
    (ctx.internAll types).maskIds = ctx.maskIds := by
  induction types generalizing ctx with
  | nil => rfl
  | cons ty rest ih => exact ih (ctx.intern ty).2

theorem initial_types : initial.types = singletons := by decide

theorem initial_valid : initial.Valid where
  begins := Grows.refl initial
  masks := by simp [KeepsMasks, initial, internAll_maskIds]
  keys := by simp [initial, internAll_maskIds]

theorem Valid.intern (valid : ctx.Valid) (ty : Ty) : (ctx.intern ty).2.Valid where
  begins := valid.begins.trans (ctx.intern_grows ty)
  masks := by
    intro value mask member
    rw [intern_maskIds] at member
    obtain ⟨type, masked, found, covered, foundMask⟩ := valid.masks value mask member
    have growth := ctx.intern_grows ty
    exact ⟨type, masked, growth.get? found, covered, growth.get? foundMask⟩
  keys := by
    rw [intern_maskIds]
    exact valid.keys

theorem Valid.internAll (valid : ctx.Valid) (types : List Ty) : (ctx.internAll types).Valid := by
  induction types generalizing ctx with
  | nil => exact valid
  | cons ty rest ih => exact ih (valid.intern ty)

/-- Asking for a mask changes nothing, or it interns the mask and keeps its id for a value that
had none. -/
theorem masked_cases (ctx : Context) (value : TypeId) :
    (ctx.masked value).2 = ctx ∨
      ∃ ty mask, ctx.maskIds.lookup value = none ∧ ctx.get? value = some ty ∧
        ty.mask = .ok mask ∧
        (ctx.masked value).2 =
          { (ctx.intern mask).2 with maskIds := (value, (ctx.intern mask).1) :: ctx.maskIds } := by
  unfold masked
  split
  · exact .inl rfl
  · next absent =>
    split
    · exact .inl rfl
    · next ty found =>
      split
      · exact .inl rfl
      · next mask covered =>
        refine .inr ⟨ty, mask, absent, found, covered, ?_⟩
        simp only [intern_maskIds]

theorem valueTypeOf_cases (ctx : Context) (id : TypeId) :
    ∃ types, (ctx.valueTypeOf id).2 = ctx.internAll types := by
  unfold valueTypeOf
  split
  · next value _ => exact ⟨[value.type], rfl⟩
  · exact ⟨[], rfl⟩

/-- A mask is kept under a value's id once its own id is known. -/
theorem Valid.masked (valid : ctx.Valid) (value : TypeId) : (ctx.masked value).2.Valid := by
  rcases ctx.masked_cases value with same | ⟨ty, mask, absent, found, covered, same⟩
  · rw [same]
    exact valid
  · have interned := valid.intern mask
    have growth := ctx.intern_grows mask
    rw [same]
    refine ⟨interned.begins, ?_, ?_⟩
    · intro key kept member
      rcases List.mem_cons.mp member with new | old
      · cases new
        exact ⟨ty, mask, growth.get? found, covered, get?_of_lookup? (ctx.lookup?_intern mask)⟩
      · rw [← ctx.intern_maskIds mask] at old
        exact interned.masks key kept old
    · exact List.nodup_cons.mpr ⟨not_mem_keys absent, valid.keys⟩

theorem Valid.step (valid : ctx.Valid) (action : Action) : (ctx.step action).Valid := by
  cases action with
  | intern ty => exact valid.intern ty
  | primitive type => exact valid.intern (.primitive type)
  | masked value => exact valid.masked value
  | valueTypeOf id =>
    obtain ⟨types, same⟩ := ctx.valueTypeOf_cases id
    rw [Context.step, same]
    exact valid.internAll types
  | infer env params body =>
    obtain ⟨types, same⟩ := inferFunction_interns env ctx params body
    rw [Context.step, same]
    exact valid.internAll types

theorem Valid.run (valid : ctx.Valid) (actions : List Action) : (ctx.run actions).Valid := by
  induction actions generalizing ctx with
  | nil => exact valid
  | cons action rest ih => exact ih (valid.step action)

theorem step_grows (ctx : Context) (action : Action) : ctx.Grows (ctx.step action) := by
  cases action with
  | intern ty => exact ctx.intern_grows ty
  | primitive type => exact ctx.intern_grows (.primitive type)
  | masked value =>
    rcases ctx.masked_cases value with same | ⟨ty, mask, _, _, _, same⟩
    · rw [step, same]
      exact Grows.refl ctx
    · rw [step, same]
      exact ctx.intern_grows mask
  | valueTypeOf id =>
    obtain ⟨types, same⟩ := ctx.valueTypeOf_cases id
    rw [step, same]
    exact ctx.internAll_grows types
  | infer env params body =>
    obtain ⟨types, same⟩ := inferFunction_interns env ctx params body
    rw [step, same]
    exact ctx.internAll_grows types

theorem run_grows (ctx : Context) (actions : List Action) : ctx.Grows (ctx.run actions) := by
  induction actions generalizing ctx with
  | nil => exact Grows.refl ctx
  | cons action rest ih => exact (ctx.step_grows action).trans (ih (ctx.step action))

theorem get?_isSome_iff : (ctx.get? id).isSome ↔ id < ctx.size := by
  simp [TypeTable.get?, size]

theorem run_get? (assigned : id < ctx.size) (actions : List Action) :
    (ctx.run actions).get? id = ctx.get? id := by
  obtain ⟨ty, found⟩ := Option.isSome_iff_exists.mp (get?_isSome_iff.mpr assigned)
  rw [found]
  exact (ctx.run_grows actions).get? found

/-- The representation of a context: the types and the map to their ids hold the same pairs,
the singletons have their first ids, and each kept mask is the mask over its value. -/
structure Consistent (ctx : Context) : Prop where
  nodup : ctx.types.Nodup
  assigned : ∀ id, (ctx.get? id).isSome ↔ id < ctx.size
  indexed : ∀ ty id, (ty, id) ∈ ctx.ids ↔ ctx.get? id = some ty
  indexKeys : (ctx.ids.map Prod.fst).Nodup
  canonical : ∀ ty id, ctx.lookup? ty = some id ↔ ctx.get? id = some ty
  injective : ∀ first second id, ctx.lookup? first = some id → ctx.lookup? second = some id →
    first = second
  singletons : initial.size = 24 ∧ ∀ id < initial.size, ctx.get? id = initial.get? id
  wellKnown : ctx.get? nullId = some .null ∧ ctx.get? stringViewId = some .stringView ∧
    ctx.get? ownedStringId = some .ownedString ∧
    ctx.get? stringLiteralId = some .stringLiteral ∧ ctx.get? boolId = some .bool
  masks : ctx.KeepsMasks
  keys : (ctx.maskIds.map Prod.fst).Nodup

theorem Valid.consistent (valid : ctx.Valid) : ctx.Consistent where
  nodup := ctx.types_nodup
  assigned _ := get?_isSome_iff
  indexed := ctx.filled.agrees.entries
  indexKeys := ctx.filled.agrees.keys
  canonical _ _ := lookup?_eq_some_iff
  injective _ _ _ := lookup?_injective
  singletons := by
    refine ⟨rfl, fun id bound => ?_⟩
    obtain ⟨ty, found⟩ := Option.isSome_iff_exists.mp (get?_isSome_iff.mpr bound)
    rw [found]
    exact valid.begins.get? found
  wellKnown := by
    have kept {id : TypeId} {ty : Ty} (found : initial.get? id = some ty) :
        ctx.get? id = some ty := valid.begins.get? found
    exact ⟨kept rfl, kept rfl, kept rfl, kept rfl, kept rfl⟩
  masks := valid.masks
  keys := valid.keys

/-- Every context that a run of operations reaches is consistent, and no later operation
changes what an id stands for. -/
theorem run_consistent (actions : List Action) :
    (initial.run actions).Consistent ∧
      ∀ more id, id < (initial.run actions).size →
        ((initial.run actions).run more).get? id = (initial.run actions).get? id := by
  have valid : (initial.run actions).Valid := initial_valid.run actions
  refine ⟨valid.consistent, ?_⟩
  intro more id assigned
  exact run_get? assigned more

/-- A mask asked for before its value is known, then for a known one, a typing that fails
after it has interned, and the value under the mask. -/
def interleaved : List Action :=
  [.masked 24, .intern (.external "decimal"), .masked 4,
    .infer ⟨.numeric, {}⟩ [.masked (.primitive .float32)] (.binary .add (.param 0) (.param 7)),
    .valueTypeOf 25, .masked 24]

theorem interleaved_consistent :
    24 < (initial.run interleaved).size ∧
      (initial.run interleaved).types =
        singletons ++ [.external "decimal", .masked (.primitive .bool),
          .masked (.primitive .float32)] ∧
      (initial.run interleaved).maskIds = [(4, 25)] ∧ (initial.run interleaved).Consistent ∧
      ((initial.run interleaved).run interleaved).get? 24 = (initial.run interleaved).get? 24 := by
  have assigned : 24 < (initial.run interleaved).size := by decide +kernel
  obtain ⟨consistent, kept⟩ := run_consistent interleaved
  exact ⟨assigned, by decide +kernel, by decide +kernel, consistent, kept _ _ assigned⟩

end Context

end RowTyping
