import RowTyping.Proofs.Completion
import RowTyping.Proofs.ContextInvariant
import RowTyping.Proofs.Join

/-! What typing a function adds to a context: the parameter types, then the types of the nodes
that were completed, then the packed type if all went well, each type once and only if it is
new. Conversions name types that were interned before, or that the next node interns anyway,
so they add nothing of their own. -/

namespace RowTyping

/-! Interning in turn appends what is new, in order of first appearance. -/

namespace Context

variable {ctx : Context} {ty : Ty} {types : List Ty}

/-- The first appearances of types that a context lacks. -/
def missing (ctx : Context) (types : List Ty) : List Ty :=
  (types.filter fun ty => ty ∉ ctx.types).eraseDups

theorem intern_intern (ctx : Context) (ty : Ty) :
    (ctx.intern ty).2.intern ty = ctx.intern ty := by
  exact intern_of_lookup? (ctx.lookup?_intern ty)

private theorem mem_intern (ctx : Context) (ty : Ty) : ty ∈ (ctx.intern ty).2.types := by
  have found := get?_of_lookup? (ctx.lookup?_intern ty)
  exact List.mem_of_getElem? found

theorem Grows.mem (growth : ctx.Grows grown) (present : ty ∈ ctx.types) : ty ∈ grown.types :=
  growth.subset present

theorem internAll_types (ctx : Context) (types : List Ty) :
    (ctx.internAll types).types = ctx.types ++ ctx.missing types := by
  induction types generalizing ctx with
  | nil => simp [internAll, missing]
  | cons ty rest ih =>
    have step : ctx.internAll (ty :: rest) = (ctx.intern ty).2.internAll rest := rfl
    rw [step, ih]
    by_cases present : ty ∈ ctx.types
    · rw [intern_of_mem present]
      simp [missing, present]
    · have types := (intern_of_not_mem present).2
      simp only [missing, types, List.filter_cons, present, not_false_eq_true, decide_true,
        ↓reduceIte, List.eraseDups_cons, List.filter_filter, List.append_assoc,
        List.singleton_append]
      congr 3
      apply List.filter_congr
      intro other _
      simp [beq_eq_decide, and_comm]

private theorem mem_internAll (member : ty ∈ types) : ty ∈ (ctx.internAll types).types := by
  obtain ⟨before, after, rfl⟩ := List.append_of_mem member
  rw [internAll_append]
  exact (internAll_grows _ after).mem (mem_intern _ ty)

end Context

/-- Both branches of a join convert to the joined type. -/
def ScalarTyping.JoinsConvert (scalar : ScalarTyping) : Prop :=
  ∀ first second joined, Ty.unify scalar first second = .ok joined →
    (∃ way, Conversion.classify scalar first joined = .ok way) ∧
      ∃ way, Conversion.classify scalar second joined = .ok way

theorem ScalarTyping.numeric_joinsConvert : JoinsConvert .numeric := by
  intro first second joined joins
  exact ⟨Ty.unify_classify_left joins, Ty.unify_classify_right joins⟩

variable {env : TypingEnv} {params : List Ty} {session middle later : Session} {e : Expr}
variable {nodes more : List Expr}

def typesOf (env : TypingEnv) (params : List Ty) (nodes : List Expr) : List Ty :=
  nodes.filterMap fun e => (typeOf env params e).toOption

private theorem typesOf_append (env : TypingEnv) (params : List Ty) (nodes more : List Expr) :
    typesOf env params (nodes ++ more) = typesOf env params nodes ++ typesOf env params more :=
  List.filterMap_append

private theorem typesOf_singleton (typed : nodeOf env params e = .ok node) :
    typesOf env params [e] = [node.type] := by
  rw [typesOf, List.filterMap_cons, typeOf_of_nodeOf typed]
  rfl

private theorem mem_typesOf (typed : nodeOf env params e = .ok node) (member : e ∈ nodes) :
    node.type ∈ typesOf env params nodes := by
  refine List.mem_filterMap.mpr ⟨e, member, ?_⟩
  rw [typeOf_of_nodeOf typed]
  rfl

/-- The later session has recorded exactly these expressions more, and interned exactly their
types. -/
structure Session.Records (env : TypingEnv) (params : List Ty) (session later : Session)
    (nodes : List Expr) : Prop where
  nodeTypes : ∃ added, later.nodeTypes = session.nodeTypes ++ added ∧
    List.Forall₂ (TypeId.Shows env params later.context) added nodes
  context : later.context = session.context.internAll (typesOf env params nodes)

namespace Session.Records

theorem refl (session : Session) : session.Records env params session [] :=
  ⟨⟨[], by simp, .nil⟩, rfl⟩

theorem grows (records : session.Records env params later nodes) :
    session.context.Grows later.context := by
  rw [records.context]
  exact session.context.internAll_grows _

theorem trans (first : session.Records env params middle nodes)
    (second : middle.Records env params later more) :
    session.Records env params later (nodes ++ more) := by
  obtain ⟨added, same, shown⟩ := first.nodeTypes
  obtain ⟨addedLater, sameLater, shownLater⟩ := second.nodeTypes
  refine ⟨⟨added ++ addedLater, by simp [sameLater, same], ?_⟩, ?_⟩
  · exact List.rel_append (shown.imp fun _ _ shows => shows.mono second.grows) shownLater
  · rw [second.context, first.context, typesOf_append, Context.internAll_append]

theorem present (records : session.Records env params later (completed env params e))
    (typed : nodeOf env params e = .ok node) : node.type ∈ later.context.types := by
  have root : e ∈ completed env params e := by
    simp [completed_of_nodeOf typed, e.postorder_eq]
  rw [records.context]
  exact Context.mem_internAll (mem_typesOf typed root)

end Session.Records

namespace Check

/-- A step records the given expressions and interns their types and nothing else, whether it
succeeds or fails. -/
def Completes (env : TypingEnv) (params : List Ty) (step : Check α) (session : Session)
    (nodes : List Expr) : Prop :=
  session.Records env params (step session).2 nodes

theorem Completes.bind {step : Check α} {next : α → Check β}
    (first : Completes env params step session nodes)
    (rest : ∀ answer later, step session = (.ok answer, later) →
      session.Records env params later nodes → Completes env params (next answer) later more)
    (stops : ∀ failure later, step session = (.error failure, later) → more = []) :
    Completes env params (step >>= next) session (nodes ++ more) := by
  unfold Completes at first ⊢
  cases ran : step session with
  | mk outcome later =>
    rw [ran] at first
    cases outcome with
    | error failure =>
      rw [bind_error ran, stops failure later ran, List.append_nil]
      exact first
    | ok answer =>
      rw [bind_ok ran]
      exact first.trans (rest answer later ran first)

theorem Completes.outcome {outcome : Except TypeError α} {next : α → Check β}
    (rest : ∀ answer, outcome = .ok answer → Completes env params (next answer) session nodes)
    (stops : ∀ failure, outcome = .error failure → nodes = []) :
    Completes env params (ofOutcome outcome >>= next) session nodes := by
  cases outcome with
  | error failure =>
    rw [stops failure rfl]
    exact Session.Records.refl session
  | ok answer => exact rest answer rfl

theorem Completes.record (node : Node) (typed : nodeOf env params e = .ok node) :
    Completes env params (record node.type node.signature) session (typedRoot env params e) := by
  rw [typedRoot_of_nodeOf typed]
  refine ⟨⟨[_], rfl, .cons ⟨node, typed, Context.lookup?_intern _ _⟩ .nil⟩, ?_⟩
  rw [typesOf_singleton typed]
  rfl

private theorem convert_run (node : NodeId) (source target : Ty) (conversion : Conversion)
    (session : Session) :
    ∃ later, convert node source target conversion session = (.ok (), later) ∧
      later.nodeTypes = session.nodeTypes ∧
      later.context = ((session.context.intern source).2.intern target).2 :=
  ⟨_, rfl, rfl, rfl⟩

/-- A conversion between types of the context leaves the context alone. -/
theorem Completes.convert (source_present : source ∈ session.context.types)
    (target_present : target ∈ session.context.types) :
    Completes env params (convert node source target conversion) session [] := by
  obtain ⟨later, ran, nodeTypes, context⟩ := convert_run node source target conversion session
  rw [Context.intern_of_mem source_present, Context.intern_of_mem target_present] at context
  rw [Completes, ran]
  exact ⟨⟨[], by simp [nodeTypes], .nil⟩, context⟩

/-- A conversion of a branch may intern the joined type, but not before it is due: interning it
next makes no difference. -/
theorem convertBranch_defers (converts : Conversion.classify env.scalar branch joined = .ok way)
    (present : branch ∈ session.context.types) (node : NodeId) :
    ∃ later, convertBranch env node branch joined session = (.ok (), later) ∧
      later.nodeTypes = session.nodeTypes ∧ session.context.Grows later.context ∧
      later.context.intern joined = session.context.intern joined := by
  have ran : ofOutcome (Conversion.classify env.scalar branch joined) session =
      (.ok way, session) := by
    rw [converts]
    rfl
  rw [convertBranch, bind_ok ran]
  by_cases noop : way.isNoop = true
  · simp only [noop, ↓reduceIte]
    exact ⟨session, rfl, rfl, .refl _, rfl⟩
  · simp only [noop, Bool.false_eq_true, ↓reduceIte]
    obtain ⟨later, ran, nodeTypes, context⟩ := convert_run node branch joined way session
    rw [Context.intern_of_mem present] at context
    refine ⟨later, ran, nodeTypes, ?_, ?_⟩
    · rw [context]
      exact Context.intern_grows _ joined
    · rw [context]
      exact Context.intern_intern _ joined

/-- A join interns the joined type and nothing else, although its conversions come first. -/
theorem Completes.join (typed : nodeOf env params e = .ok { type := joined })
    (first_converts : Conversion.classify env.scalar first joined = .ok firstWay)
    (second_converts : Conversion.classify env.scalar second joined = .ok secondWay)
    (first_present : first ∈ session.context.types)
    (second_present : second ∈ session.context.types) (firstNode secondNode : NodeId) :
    Completes env params (do
        convertBranch env firstNode first joined
        convertBranch env secondNode second joined
        Check.record joined) session (typedRoot env params e) := by
  obtain ⟨middle, ran, nodeTypes, growth, defers⟩ :=
    convertBranch_defers first_converts first_present firstNode
  obtain ⟨later, ranNext, nodeTypesNext, _, defersNext⟩ :=
    convertBranch_defers second_converts (growth.mem second_present) secondNode
  have records : later.Records env params (Check.record joined none later).2 _ :=
    Completes.record _ typed
  rw [Completes, bind_ok ran, bind_ok ranNext]
  refine ⟨?_, records.context.trans ?_⟩
  · rw [← nodeTypes, ← nodeTypesNext]
    exact records.nodeTypes
  · rw [typedRoot_of_nodeOf typed, typesOf_singleton typed]
    exact congrArg Prod.snd (defersNext.trans defers)

end Check

open Check

private theorem operand_completes {next : NodeId × Ty → Check β}
    (first : Completes env params (check env params e) session (completed env params e))
    (rest : ∀ id node later, nodeOf env params e = .ok node →
      session.Records env params later (completed env params e) →
      Completes env params (next (id, node.type)) later more)
    (stops : ∀ failure, nodeOf env params e = .error failure → more = []) :
    Completes env params (check env params e >>= next) session
      (completed env params e ++ more) := by
  have outcome : (check env params e session).1.map Prod.snd = typeOf env params e :=
    check_type e session
  refine first.bind (fun answer later ran records => ?_) fun failure later ran => ?_
  · obtain ⟨id, type⟩ := answer
    rw [ran] at outcome
    obtain ⟨node, typed, same⟩ := typeOf_eq_ok_iff.mp outcome.symm
    subst same
    exact rest id node later typed records
  · cases typed : nodeOf env params e with
    | error failure => exact stops failure typed
    | ok node =>
      rw [ran, typeOf_of_nodeOf typed] at outcome
      cases outcome

private theorem applying_completes {outcome : Except TypeError Signature}
    (root : nodeOf env params e = do return .applying (← outcome)) :
    Completes env params (ofOutcome outcome >>= recordSignature) session
      (typedRoot env params e) := by
  refine Completes.outcome (fun signature resolved => ?_) fun failure failed => ?_
  · refine Completes.record (.applying signature) ?_
    rw [root, resolved]
    rfl
  · exact typedRoot_of_failed failed root

private theorem operation_completes_one {operand : Expr} {operation : Operation}
    (ih : Completes env params (check env params operand) session (completed env params operand))
    (root : nodeOf env params e = do
      let node ← nodeOf env params operand
      let signature ← resolve env operation [node.type]
      return .applying signature) :
    Completes env params (do
        let (_, type) ← check env params operand
        let signature ← ofOutcome (resolve env operation [type])
        recordSignature signature)
      session (completed env params operand ++ typedRoot env params e) := by
  refine operand_completes ih (fun id node later typed _ => ?_) fun failure failed => ?_
  · rw [typed] at root
    exact applying_completes root
  · exact typedRoot_of_failed failed root

private theorem operation_completes_two {left right : Expr} {operation : Operation}
    (ihLeft : Completes env params (check env params left) session (completed env params left))
    (ihRight : ∀ middle, session.context.Grows middle.context →
      Completes env params (check env params right) middle (completed env params right))
    (root : nodeOf env params e = do
      let leftNode ← nodeOf env params left
      let rightNode ← nodeOf env params right
      let signature ← resolve env operation [leftNode.type, rightNode.type]
      return .applying signature) :
    Completes env params (do
        let (_, leftType) ← check env params left
        let (_, rightType) ← check env params right
        let signature ← ofOutcome (resolve env operation [leftType, rightType])
        recordSignature signature)
      session (completed env params left ++
        unlessFailed (nodeOf env params left) (completed env params right) ++
        typedRoot env params e) := by
  rw [List.append_assoc]
  refine operand_completes ihLeft (fun id leftNode afterLeft leftTyped records => ?_)
    fun _ failed => rest_of_failed failed root
  rw [leftTyped] at root ⊢
  refine operand_completes (ihRight afterLeft records.grows)
    (fun id rightNode afterRight rightTyped _ => ?_)
    fun _ failed => typedRoot_of_failed failed root
  rw [rightTyped] at root
  exact applying_completes root

/-- A view is converted before its mask is recorded; both types of the conversion are in every
context. -/
private theorem masked_completes {value valid : Expr}
    (begins : Context.initial.Grows session.context)
    (ihValue : Completes env params (check env params value) session (completed env params value))
    (ihValid : ∀ middle, session.context.Grows middle.context →
      Completes env params (check env params valid) middle (completed env params valid)) :
    Completes env params (check env params (.masked value valid)) session
      (completed env params (.masked value valid)) := by
  rw [check, completed, List.append_assoc]
  refine operand_completes ihValue (fun id valueNode afterValue valueTyped recordsValue => ?_)
    fun _ failed => rest_of_failed failed (by rw [nodeOf])
  rw [valueTyped, unlessFailed_ok]
  refine operand_completes (ihValid afterValue recordsValue.grows)
    (fun _ validNode afterValid validTyped recordsValid => ?_)
    fun _ failed => typedRoot_of_failed failed (by rw [nodeOf, valueTyped]; rfl)
  have root : nodeOf env params (.masked value valid) = do
      let signature ← resolve env .construct [valueNode.type, validNode.type]
      return .applying signature := by
    rw [nodeOf, valueTyped, validTyped]
    rfl
  refine Completes.outcome (fun signature resolved => ?_)
    fun _ failed => typedRoot_of_failed failed root
  have own : nodeOf env params (.masked value valid) = .ok (.applying signature) := by
    rw [root, resolved]
    rfl
  dsimp only
  split
  · have ready := (begins.trans recordsValue.grows).trans recordsValid.grows
    have converted : Completes env params (convert id .stringView .ownedString .materialize)
        afterValid [] :=
      Completes.convert (ready.mem (by decide)) (ready.mem (by decide))
    exact converted.bind (fun _ _ _ _ => Completes.record _ own) fun _ _ ran => by cases ran
  · exact Completes.record _ own

/-- The branches of a join, once its condition was tested. -/
private theorem branches_complete {thenBranch elseBranch : Expr}
    (converts : env.scalar.JoinsConvert)
    (ihThen : Completes env params (check env params thenBranch) session
      (completed env params thenBranch))
    (ihElse : ∀ middle, session.context.Grows middle.context →
      Completes env params (check env params elseBranch) middle
        (completed env params elseBranch))
    (root : nodeOf env params e = branchesOf env params thenBranch elseBranch) :
    Completes env params (do
        let (thenId, thenType) ← check env params thenBranch
        let (elseId, elseType) ← check env params elseBranch
        let joined ← ofOutcome (Ty.unify env.scalar thenType elseType)
        convertBranch env thenId thenType joined
        convertBranch env elseId elseType joined
        Check.record joined)
      session (completed env params thenBranch ++
        unlessFailed (nodeOf env params thenBranch) (completed env params elseBranch) ++
        typedRoot env params e) := by
  rw [List.append_assoc]
  refine operand_completes ihThen (fun thenId thenNode afterThen thenTyped recordsThen => ?_)
    fun _ failed => rest_of_failed failed root
  rw [branchesOf, thenTyped] at root
  rw [thenTyped, unlessFailed_ok]
  refine operand_completes (ihElse afterThen recordsThen.grows)
    (fun elseId elseNode afterElse elseTyped recordsElse => ?_)
    fun _ failed => typedRoot_of_failed failed root
  rw [elseTyped] at root
  refine Completes.outcome (fun joined unified => ?_)
    fun _ failed => typedRoot_of_failed failed root
  obtain ⟨⟨thenWay, thenConverts⟩, ⟨elseWay, elseConverts⟩⟩ := converts _ _ _ unified
  have own : nodeOf env params e = .ok { type := joined } := by
    simp only [root, unified, thenConverts, elseConverts, bind, Except.bind]
    rfl
  have thenPresent := recordsElse.grows.mem (recordsThen.present thenTyped)
  have elsePresent := recordsElse.present elseTyped
  exact Completes.join own thenConverts elseConverts thenPresent elsePresent _ _

private theorem checkArgs_completes {args : List Expr}
    (each : ∀ arg ∈ args, ∀ middle, session.context.Grows middle.context →
      Completes env params (check env params arg) middle (completed env params arg)) :
    Completes env params (checkArgs env params args) session (completedAll env params args) := by
  induction args generalizing session with
  | nil =>
    rw [checkArgs, completedAll]
    exact Session.Records.refl session
  | cons arg rest ih =>
    rw [checkArgs, completedAll]
    have first := each arg List.mem_cons_self session (.refl _)
    refine operand_completes first (fun id node later typed records => ?_)
      fun failure failed => ?_
    · have others := ih fun other member middle growth =>
        each other (List.mem_cons_of_mem arg member) middle (records.grows.trans growth)
      rw [typed, unlessFailed_ok, ← List.append_nil (completedAll env params rest)]
      exact others.bind (fun types last _ _ => Session.Records.refl last) fun _ _ _ => rfl
    · rw [failed, unlessFailed_error]

/-- Typing an expression interns the types of the nodes that it completes and nothing else. -/
theorem check_completes (params : List Ty) (converts : env.scalar.JoinsConvert) (e : Expr)
    (begins : Context.initial.Grows session.context) :
    Completes env params (check env params e) session (completed env params e) := by
  induction e generalizing session with
  | literal value =>
    rw [check, completed]
    exact Completes.record { type := value.type env.settings } (by rw [nodeOf])
  | param index =>
    rw [check, completed]
    cases found : params[index]? with
    | none =>
      rw [typedRoot_of_error (by rw [nodeOf, found])]
      exact Session.Records.refl session
    | some type => exact Completes.record { type } (by rw [nodeOf, found])
  | na =>
    rw [check, completed]
    exact Completes.record { type := .null } (by rw [nodeOf])
  | masked value valid ihValue ihValid =>
    exact masked_completes begins (ihValue begins) fun _ growth => ihValid (begins.trans growth)
  | binary op left right ihLeft ihRight =>
    rw [check, completed]
    exact operation_completes_two (ihLeft begins) (fun _ growth => ihRight (begins.trans growth))
      (by rw [nodeOf])
  | unary op operand ih =>
    rw [check, completed]
    exact operation_completes_one (ih begins) (by rw [nodeOf])
  | isNull left right ihLeft ihRight =>
    rw [check, completed]
    exact operation_completes_two (ihLeft begins) (fun _ growth => ihRight (begins.trans growth))
      (by rw [nodeOf])
  | len operand ih =>
    rw [check, completed]
    exact operation_completes_one (ih begins) (by rw [nodeOf])
  | attr base name ih =>
    rw [check, completed]
    refine operand_completes (ih begins) (fun id node later typed _ => ?_)
      fun _ failed => typedRoot_of_failed failed (by rw [nodeOf])
    refine Completes.outcome (fun type member => ?_)
      fun _ failed => typedRoot_of_failed failed (by rw [nodeOf, typed]; rfl)
    refine Completes.record { type } ?_
    rw [nodeOf, typed]
    simp only [member, bind, Except.bind]
    rfl
  | call receiver name args ihReceiver ihArgs =>
    rw [check, completed, List.append_assoc]
    refine operand_completes (ihReceiver begins) (fun id node afterReceiver typed records => ?_)
      fun _ failed => rest_of_failed failed (by rw [nodeOf])
    rw [typed, unlessFailed_ok]
    have beginsArgs := begins.trans records.grows
    have argsComplete := checkArgs_completes fun arg member middle growth =>
      ihArgs arg member (beginsArgs.trans growth)
    have argTypes : (checkArgs env params args afterReceiver).1 = argTypesOf env params args :=
      checkArgs_types args afterReceiver
    refine argsComplete.bind (fun types afterArgs ran _ => ?_) fun failure later ran => by
      rw [ran] at argTypes
      exact typedRoot_of_failed argTypes.symm (by rw [nodeOf, typed]; rfl)
    rw [ran] at argTypes
    have root : nodeOf env params (.call receiver name args) = do
        let method ← calledMethod env node.type name
        let signature ← method.signature env node.type types
        return .applying signature := by
      rw [nodeOf, typed, ← argTypes]
      rfl
    refine Completes.outcome (fun method called => ?_)
      fun _ failed => typedRoot_of_failed failed root
    rw [called] at root
    exact applying_completes root
  | ifElse cond thenBranch elseBranch ihCond ihThen ihElse =>
    rw [check, completed, List.append_assoc]
    have root := nodeOf_ifElse_eq env params cond thenBranch elseBranch
    refine operand_completes (ihCond begins) (fun _ condNode afterCond condTyped records => ?_)
      fun failure failed => rest_of_failed (by rw [truthOf, failed]; rfl) root
    have beginsThen := begins.trans records.grows
    have test : truthOf env params cond = resolve env .truth [condNode.type] := by
      rw [truthOf, condTyped]
      rfl
    refine Completes.outcome (fun truth isTruth => ?_)
      fun _ failed => rest_of_failed (test.trans failed) root
    rw [test, isTruth] at root ⊢
    exact branches_complete converts (ihThen beginsThen)
      (fun _ growth => ihElse (beginsThen.trans growth)) root

def packedTypes (env : TypingEnv) (params : List Ty) (body : Expr) : List Ty :=
  match packedTypeOf env params body with
  | .ok (_, packed) => [packed]
  | .error _ => []

/-- The body's own type is interned a second time, which changes nothing, and then the packed
type. -/
private theorem pack_context {node : Node} {middle : Session}
    (typed : nodeOf env params body = .ok node) (present : node.type ∈ middle.context.types) :
    let later := (do
      let packed ← ofOutcome (resolve env .pack [node.type])
      let bodyId ← intern node.type
      let packedId ← intern packed.result
      pure (bodyId, packedId) : Check (TypeId × TypeId)) middle
    later.2.nodeTypes = middle.nodeTypes ∧
      later.2.context = middle.context.internAll (packedTypes env params body) := by
  intro later
  cases packs : resolve env .pack [node.type] with
  | error failure =>
    have fails : ofOutcome (resolve env .pack [node.type]) middle = (.error failure, middle) := by
      rw [packs]
      rfl
    have none : packedTypes env params body = [] := by
      simp [packedTypes, packedTypeOf, typed, packs, bind, Except.bind]
    rw [none]
    simp only [later, bind_error fails, true_and]
    rfl
  | ok packed =>
    have succeeds : ofOutcome (resolve env .pack [node.type]) middle = (.ok packed, middle) := by
      rw [packs]
      rfl
    have one : packedTypes env params body = [packed.result] := by
      simp [packedTypes, packedTypeOf, typed, packs, bind, Except.bind, pure, Except.pure]
    rw [one]
    simp only [later, bind_ok succeeds]
    refine ⟨rfl, ?_⟩
    exact congrArg (fun context => (context.intern packed.result).2) (Context.intern_of_mem present)

/-- A typed body interns the packed type last; one that fails interns nothing after its nodes. -/
theorem checkBody_completes (env : TypingEnv) (params : List Ty) (body : Expr) (session : Session)
    (converts : env.scalar.JoinsConvert) (begins : Context.initial.Grows session.context) :
    ∃ middle, session.Records env params middle (completed env params body) ∧
      (checkBody env params body session).2.nodeTypes = middle.nodeTypes ∧
      (checkBody env params body session).2.context =
        middle.context.internAll (packedTypes env params body) := by
  have records : Completes env params (check env params body) session _ :=
    check_completes params converts body begins
  have outcome : (check env params body session).1.map Prod.snd = typeOf env params body :=
    check_type body session
  refine ⟨_, records, ?_⟩
  cases ran : check env params body session with
  | mk answer middle =>
    rw [ran] at outcome
    rw [Completes, ran] at records
    cases answer with
    | error failure =>
      have none : packedTypes env params body = [] := by
        cases typed : nodeOf env params body with
        | error failure => simp [packedTypes, packedTypeOf, typed, bind, Except.bind]
        | ok node =>
          rw [typeOf_of_nodeOf typed] at outcome
          cases outcome
      rw [checkBody, bind_error ran, none]
      exact ⟨rfl, rfl⟩
    | ok answer =>
      obtain ⟨node, typed, same⟩ := typeOf_eq_ok_iff.mp outcome.symm
      rw [checkBody, bind_ok ran]
      dsimp only
      rw [← same]
      exact pack_context typed (records.present typed)

/-- The types of the nodes that typing a function has recorded when it ends, whether it succeeds
or fails. -/
def recordedTypes (env : TypingEnv) (ctx : Context) (params : List Ty) (body : Expr) :
    List TypeId :=
  (checkBody env params body { context := ctx.internAll params }).2.nodeTypes

private theorem nodeTypes_recorded {ctx grown : Context} {function : TypedFunction}
    (success : inferFunction env ctx params body = (.ok function, grown)) :
    function.nodeTypes = recordedTypes env ctx params body := by
  cases ran : checkBody env params body { context := ctx.internAll params } with
  | mk answer later =>
    simp only [inferFunction, ExceptT.run, StateT.run, ran] at success
    rw [recordedTypes, ran]
    cases answer with
    | error failure => cases success
    | ok ids =>
      cases success
      rfl

/-- Typing a function appends to a context what is new among the parameter types, the types of
the nodes that it completes, and the packed type if it succeeds. All nodes are completed in a
success, and otherwise those before the failure; they are the recorded ones. Masks that are kept
stay as they are. -/
theorem inferFunction_interns_completed (settings : Settings) (actions : List Context.Action)
    (params : List Ty) (body : Expr) :
    let env : TypingEnv := ⟨.numeric, settings⟩
    let ctx := Context.initial.run actions
    let nodes := completed env params body
    let outcome := inferFunction env ctx params body
    nodes <+: body.postorder ∧
      List.Forall₂ (TypeId.Shows env params outcome.2) (recordedTypes env ctx params body) nodes ∧
      outcome.2.maskIds = ctx.maskIds ∧
      match packedTypeOf env params body with
      | .ok (_, packed) => nodes = body.postorder ∧
          outcome.2.types =
            ctx.types ++ ctx.missing (params ++ typesOf env params nodes ++ [packed]) ∧
          ∃ function, outcome.1 = .ok function ∧
            function.nodeTypes = recordedTypes env ctx params body ∧
            outcome.2.lookup? packed = some function.result
      | .error failure => outcome.1 = .error failure ∧
          outcome.2.types = ctx.types ++ ctx.missing (params ++ typesOf env params nodes) := by
  intro env ctx nodes outcome
  have progress : Progress (nodeOf env params body) nodes body.postorder :=
    completed_progress env params body
  have begins : Context.initial.Grows (ctx.internAll params) :=
    (Context.initial_valid.run actions).begins.trans (ctx.internAll_grows params)
  obtain ⟨middle, records, nodeTypes, context⟩ :=
    checkBody_completes env params body { context := ctx.internAll params }
      ScalarTyping.numeric_joinsConvert begins
  obtain ⟨added, same, shown⟩ := records.nodeTypes
  have all : outcome.2 =
      ctx.internAll (params ++ typesOf env params nodes ++ packedTypes env params body) := by
    rw [Context.internAll_append, Context.internAll_append]
    exact context.trans (by rw [records.context])
  have growth : middle.context.Grows outcome.2 := by
    change middle.context.Grows (checkBody env params body _).2.context
    rw [context]
    exact middle.context.internAll_grows _
  have types := (congrArg (·.types) all).trans (ctx.internAll_types _)
  refine ⟨progress.begins, ?_, ?_, ?_⟩
  · rw [recordedTypes, nodeTypes, same]
    exact shown.imp fun _ _ shows => shows.mono growth
  · rw [all, Context.internAll_maskIds]
  · cases packs : packedTypeOf env params body with
    | error failure =>
      obtain ⟨grown, failed⟩ := inferFunction_error packs ctx
      have none : packedTypes env params body = [] := by rw [packedTypes, packs]
      rw [none, List.append_nil] at types
      exact ⟨congrArg Prod.fst failed, types⟩
    | ok answer =>
      obtain ⟨type, packed⟩ := answer
      obtain ⟨node, typed, _⟩ := bind_eq_ok_iff.mp packs
      obtain ⟨function, grown, success, _, shows⟩ := inferFunction_ok packs ctx
      have one : packedTypes env params body = [packed] := by rw [packedTypes, packs]
      rw [one] at types
      have final : outcome.2 = grown := congrArg Prod.snd success
      exact ⟨progress.whole node typed, types, function, congrArg Prod.fst success,
        nodeTypes_recorded success, final ▸ shows.result⟩

-- A sum that was typed before the failure leaves its type behind, after the parameter's.
example :
    (inferFunction ⟨.numeric, {}⟩ .initial [.masked (.primitive (.int .w8))]
        (.binary .add (.binary .add (.param 0) (.literal (.int 1))) (.param 1))).2.types =
      Context.singletons ++
        [.masked (.primitive (.int .w8)), .masked (.primitive (.int .w64))] := by
  decide +kernel

end RowTyping
