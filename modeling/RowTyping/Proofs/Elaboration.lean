import RowTyping.Infer.Function
import RowTyping.Proofs.Judgment
import Mathlib.Data.List.Forall2

/-! What typing records. A successful step adds the nodes of the expression in order of
completion, each with the type and signature that the expression has by itself, and the
conversions that these nodes ask for; a failing step ends in the expression's own failure.
The context decides neither. -/

namespace RowTyping

variable {env : TypingEnv} {params : List Ty} {ctx grown : Context} {session middle later : Session}
variable {e : Expr} {nodes moreNodes : List Expr} {sites moreSites : List Site}

def TypeId.Shows (env : TypingEnv) (params : List Ty) (ctx : Context) (id : TypeId)
    (e : Expr) : Prop :=
  ∃ node, nodeOf env params e = .ok node ∧ ctx.lookup? node.type = some id

def TypedNode.Shows (env : TypingEnv) (params : List Ty) (ctx : Context) (typed : TypedNode)
    (e : Expr) : Prop :=
  ∃ node, nodeOf env params e = .ok node ∧ ctx.lookup? node.type = some typed.type ∧
    typed.signature = node.signature

/-- The types of all the nodes and the signatures of the operations among them show the nodes
one by one. -/
theorem TypedNode.list_shows {types : List TypeId}
    (shown : List.Forall₂ (TypeId.Shows env params ctx) types nodes) :
    List.Forall₂ (TypedNode.Shows env params ctx)
      (TypedNode.list types (signaturesFrom env params 0 nodes)) nodes := by
  obtain ⟨length, each⟩ := List.forall₂_iff_get.mp shown
  refine List.forall₂_iff_get.mpr ⟨by simpa [TypedNode.list] using length, ?_⟩
  intro index within withinNodes
  obtain ⟨node, typed, found⟩ := each index (length ▸ withinNodes) withinNodes
  refine ⟨node, typed, by simpa [TypedNode.list] using found, ?_⟩
  have signed : (signaturesFrom env params 0 nodes).lookup index = _ :=
    lookup_signaturesFrom (List.getElem?_eq_getElem withinNodes)
  simpa [TypedNode.list] using signed.trans (signatureOf_of_nodeOf typed)

structure ConversionSite.Shows (ctx : Context) (typed : ConversionSite) (site : Site) : Prop where
  node : typed.node = site.node
  source : ctx.lookup? site.source = some typed.source
  target : ctx.lookup? site.target = some typed.target
  conversion : typed.conversion = site.conversion

theorem TypeId.Shows.mono {id : TypeId} (growth : ctx.Grows grown)
    (same : id.Shows env params ctx e) : id.Shows env params grown e := by
  obtain ⟨node, typed, found⟩ := same
  exact ⟨node, typed, growth.lookup? found⟩

theorem ConversionSite.Shows.mono {typed : ConversionSite} (growth : ctx.Grows grown)
    (same : typed.Shows ctx site) : typed.Shows grown site :=
  ⟨same.node, growth.lookup? same.source, growth.lookup? same.target, same.conversion⟩

/-- The later session has recorded exactly these nodes and conversions more. -/
structure Session.Extends (env : TypingEnv) (params : List Ty) (session later : Session)
    (nodes : List Expr) (sites : List Site) : Prop where
  context : session.context.Grows later.context
  nodeTypes : ∃ added, later.nodeTypes = session.nodeTypes ++ added ∧
    List.Forall₂ (TypeId.Shows env params later.context) added nodes
  signatures : later.signatures =
    signaturesFrom env params session.nodeTypes.length nodes ++ session.signatures
  conversions : ∃ added, later.conversions = session.conversions ++ added ∧
    List.Forall₂ (ConversionSite.Shows later.context) added sites

theorem Session.Extends.nodes_length (extension : session.Extends env params later nodes sites) :
    later.nodeTypes.length = session.nodeTypes.length + nodes.length := by
  obtain ⟨added, same, shown⟩ := extension.nodeTypes
  simp [same, shown.length_eq]

theorem Session.Extends.of_context {context : Context} (growth : session.context.Grows context) :
    session.Extends env params { session with context } [] [] :=
  ⟨growth, ⟨[], by simp, .nil⟩, rfl, ⟨[], by simp, .nil⟩⟩

theorem Session.Extends.refl (session : Session) : session.Extends env params session [] [] :=
  .of_context (Context.Grows.refl _)

theorem Session.Extends.trans (first : session.Extends env params middle nodes sites)
    (second : middle.Extends env params later moreNodes moreSites) :
    session.Extends env params later (nodes ++ moreNodes) (sites ++ moreSites) := by
  have length := first.nodes_length
  obtain ⟨growth, ⟨added, nodesEq, shown⟩, signed, ⟨converted, sitesEq, shownSites⟩⟩ := first
  obtain ⟨laterGrowth, ⟨addedLater, nodesLater, shownLater⟩, signedLater,
    ⟨convertedLater, sitesLater, shownSitesLater⟩⟩ := second
  refine ⟨growth.trans laterGrowth, ⟨added ++ addedLater, by simp [nodesLater, nodesEq], ?_⟩, ?_,
    ⟨converted ++ convertedLater, by simp [sitesLater, sitesEq], ?_⟩⟩
  · exact List.rel_append (shown.imp fun _ _ same => same.mono laterGrowth) shownLater
  · rw [signedLater, signed, length, signaturesFrom_append, List.append_assoc]
  · exact List.rel_append (shownSites.imp fun _ _ same => same.mono laterGrowth)
      shownSitesLater

namespace Check

/-- A step started in a session does as planned: it fails with the planned failure, or it
answers in agreement with the plan and records the given nodes and conversions. -/
def Follows (env : TypingEnv) (params : List Ty) (step : Check α) (session : Session)
    (plan : Except TypeError β) (agree : β → α → Session → Prop) (nodes : List Expr)
    (sites : List Site) : Prop :=
  match plan with
  | .ok planned => ∃ answer later, step session = (.ok answer, later) ∧
      agree planned answer later ∧ session.Extends env params later nodes sites
  | .error failure => ∃ later, step session = (.error failure, later)

theorem Follows.bind {step : Check α} {next : α → Check γ} {plan : Except TypeError β}
    {planNext : β → Except TypeError δ}
    (first : Follows env params step session plan agree nodes sites)
    (rest : ∀ planned answer later, plan = .ok planned → agree planned answer later →
      session.Extends env params later nodes sites →
      Follows env params (next answer) later (planNext planned) agreeNext moreNodes moreSites) :
    Follows env params (step >>= next) session (plan >>= planNext) agreeNext
      (nodes ++ moreNodes) (sites ++ moreSites) := by
  cases plan with
  | error failure =>
    obtain ⟨later, ran⟩ := first
    exact ⟨later, bind_error ran⟩
  | ok planned =>
    obtain ⟨answer, later, ran, agrees, extension⟩ := first
    have tail := rest planned answer later rfl agrees extension
    change Follows env params (step >>= next) session (planNext planned) agreeNext _ _
    cases outcome : planNext planned with
    | error failure =>
      rw [outcome] at tail
      obtain ⟨final, ranNext⟩ := tail
      exact ⟨final, (bind_ok ran).trans ranNext⟩
    | ok result =>
      rw [outcome] at tail
      obtain ⟨final, last, ranNext, agreesNext, extensionNext⟩ := tail
      exact ⟨final, last, (bind_ok ran).trans ranNext, agreesNext,
        extension.trans extensionNext⟩

/-- The planned outcome, as far as answers agree. -/
theorem Follows.outcome {step : Check α} {plan : Except TypeError β} {f : α → γ} {g : β → γ}
    (follows : Follows env params step session plan agree nodes sites)
    (same : ∀ planned answer later, agree planned answer later → f answer = g planned) :
    (step session).1.map f = plan.map g := by
  cases plan with
  | error failure =>
    obtain ⟨later, ran⟩ := follows
    rw [ran]
    rfl
  | ok planned =>
    obtain ⟨answer, later, ran, agrees, _⟩ := follows
    rw [ran]
    exact congrArg Except.ok (same planned answer later agrees)

/-- A plan that fails leaves the conversions open. -/
theorem Follows.with_sites {step : Check α} {plan : Except TypeError β}
    (follows : Follows env params step session plan agree nodes sites)
    (same : ∀ planned, plan = .ok planned → sites = moreSites) :
    Follows env params step session plan agree nodes moreSites := by
  cases plan with
  | error failure => exact follows
  | ok planned => exact same planned rfl ▸ follows

/-- The answer of a step that finishes a node: its number, which is the last, and its type. -/
def AnswersLast (node : Node) (answer : NodeId × Ty) (later : Session) : Prop :=
  answer = (later.nodeTypes.length - 1, node.type)

theorem Follows.record (e : Expr) (node : Node) (typed : nodeOf env params e = .ok node)
    (session : Session) :
    Follows env params (record node.type node.signature) session (.ok node) AnswersLast [e] [] := by
  refine ⟨_, _, rfl, by simp [AnswersLast], Context.intern_grows _ _, ⟨[_], rfl, ?_⟩, ?_,
    ⟨[], by simp, .nil⟩⟩
  · exact .cons ⟨node, typed, Context.lookup?_intern _ _⟩ .nil
  · cases signed : node.signature <;>
      simp [signaturesFrom, signatureOf_of_nodeOf typed, signed]

theorem Follows.convert (node : NodeId) (source target : Ty) (conversion : Conversion)
    (session : Session) :
    Follows env params (convert node source target conversion) session (.ok ())
      (fun _ _ _ => True) [] [⟨node, source, target, conversion⟩] := by
  have growth := Context.intern_grows (session.context.intern source).2 target
  refine ⟨_, _, rfl, trivial, (Context.intern_grows _ source).trans growth, ⟨[], by simp, .nil⟩,
    rfl, ⟨[_], rfl, ?_⟩⟩
  exact .cons ⟨rfl, growth.lookup? (Context.lookup?_intern _ source),
    Context.lookup?_intern _ target, rfl⟩ .nil

theorem Follows.convertBranch (node : NodeId) (branch joined : Ty) (session : Session) :
    Follows env params (convertBranch env node branch joined) session
      (Conversion.classify env.scalar branch joined) (fun _ _ _ => True) []
      (branchSites env.scalar node branch joined) := by
  unfold branchSites
  cases outcome : Conversion.classify env.scalar branch joined with
  | error failure =>
    refine ⟨session, bind_error ?_⟩
    rw [outcome]
    rfl
  | ok conversion =>
    have ran : ofOutcome (Conversion.classify env.scalar branch joined) session =
        (.ok conversion, session) := by
      rw [outcome]
      rfl
    unfold Check.convertBranch
    by_cases noop : conversion.isNoop = true
    · refine ⟨(), session, (bind_ok ran).trans ?_, trivial, ?_⟩
      · simp only [noop, ↓reduceIte]
        rfl
      · simpa [noop] using Session.Extends.refl session
    · have step : Follows env params (Check.convert node branch joined conversion) session (.ok ())
          (fun _ _ _ => True) [] [⟨node, branch, joined, conversion⟩] :=
        Follows.convert node branch joined conversion session
      obtain ⟨answer, later, converted, _, extension⟩ := step
      refine ⟨answer, later, (bind_ok ran).trans ?_, trivial, ?_⟩
      · simpa only [noop, Bool.false_eq_true, ↓reduceIte] using converted
      · simpa only [noop, Bool.false_eq_true, ↓reduceIte] using extension

/-- A step follows its plan, and the conversions are those that the recorded nodes ask for. -/
def Elaborates (env : TypingEnv) (params : List Ty) (step : Check α) (session : Session)
    (plan : Except TypeError β) (agree : β → α → Session → Prop) (nodes : List Expr) : Prop :=
  Follows env params step session plan agree nodes
    (sitesFrom env params session.nodeTypes.length nodes)

theorem Elaborates.bind {step : Check α} {next : α → Check γ} {plan : Except TypeError β}
    {planNext : β → Except TypeError δ}
    (first : Elaborates env params step session plan agree nodes)
    (rest : ∀ planned answer later, plan = .ok planned → agree planned answer later →
      later.nodeTypes.length = session.nodeTypes.length + nodes.length →
      Elaborates env params (next answer) later (planNext planned) agreeNext moreNodes) :
    Elaborates env params (step >>= next) session (plan >>= planNext) agreeNext
      (nodes ++ moreNodes) := by
  unfold Elaborates
  rw [sitesFrom_append]
  refine Follows.bind first fun planned answer later success agrees extension => ?_
  rw [← extension.nodes_length]
  exact rest planned answer later success agrees extension.nodes_length

/-- A step that records nothing changes nothing in what follows. -/
theorem Elaborates.outcome {outcome : Except TypeError α} {next : α → Check γ}
    {planNext : α → Except TypeError δ}
    (rest : ∀ answer, outcome = .ok answer →
      Elaborates env params (next answer) session (planNext answer) agree nodes) :
    Elaborates env params (ofOutcome outcome >>= next) session (outcome >>= planNext) agree
      nodes := by
  cases outcome with
  | error failure => exact ⟨session, bind_error rfl⟩
  | ok answer => exact rest answer rfl

theorem Elaborates.record (e : Expr) (node : Node) (typed : nodeOf env params e = .ok node)
    (noSites : ∀ consumer, sitesAt env params consumer e = []) :
    Elaborates env params (record node.type node.signature) session (.ok node) AnswersLast [e] := by
  have none : sitesFrom env params session.nodeTypes.length [e] = [] := by
    simp [sitesFrom, noSites]
  unfold Elaborates
  rw [none]
  exact Follows.record e node typed session

end Check

open Check

private theorem operation_elaborates_one {operand : Expr} {operation : Operation}
    (ih : ∀ session, Elaborates env params (check env params operand) session
      (nodeOf env params operand) AnswersLast operand.postorder)
    (root : nodeOf env params e = do
      let node ← nodeOf env params operand
      let signature ← resolve env operation [node.type]
      return .applying signature)
    (noSites : ∀ consumer, sitesAt env params consumer e = []) (session : Session) :
    Elaborates env params (do
        let (_, type) ← check env params operand
        let signature ← ofOutcome (resolve env operation [type])
        recordSignature signature)
      session (nodeOf env params e) AnswersLast (operand.postorder ++ [e]) := by
  have typed {node : Node} {signature : Signature}
      (operandTyped : nodeOf env params operand = .ok node)
      (resolved : resolve env operation [node.type] = .ok signature) :
      nodeOf env params e = .ok (.applying signature) := by
    simp only [root, operandTyped, resolved, bind, Except.bind]
    rfl
  rw [root]
  refine (ih session).bind fun node answer later operandTyped same _ => ?_
  subst same
  refine Elaborates.outcome fun signature resolved => ?_
  exact Elaborates.record e (.applying signature) (typed operandTyped resolved) noSites

private theorem operation_elaborates_two {left right : Expr} {operation : Operation}
    (ihLeft : ∀ session, Elaborates env params (check env params left) session
      (nodeOf env params left) AnswersLast left.postorder)
    (ihRight : ∀ session, Elaborates env params (check env params right) session
      (nodeOf env params right) AnswersLast right.postorder)
    (root : nodeOf env params e = do
      let leftNode ← nodeOf env params left
      let rightNode ← nodeOf env params right
      let signature ← resolve env operation [leftNode.type, rightNode.type]
      return .applying signature)
    (noSites : ∀ consumer, sitesAt env params consumer e = []) (session : Session) :
    Elaborates env params (do
        let (_, leftType) ← check env params left
        let (_, rightType) ← check env params right
        let signature ← ofOutcome (resolve env operation [leftType, rightType])
        recordSignature signature)
      session (nodeOf env params e) AnswersLast (left.postorder ++ right.postorder ++ [e]) := by
  have typed {leftNode rightNode : Node} {signature : Signature}
      (leftTyped : nodeOf env params left = .ok leftNode)
      (rightTyped : nodeOf env params right = .ok rightNode)
      (resolved : resolve env operation [leftNode.type, rightNode.type] = .ok signature) :
      nodeOf env params e = .ok (.applying signature) := by
    simp only [root, leftTyped, rightTyped, resolved, bind, Except.bind]
    rfl
  rw [root, List.append_assoc]
  refine (ihLeft session).bind fun leftNode answer afterLeft leftTyped same _ => ?_
  subst same
  refine (ihRight afterLeft).bind fun rightNode answer afterRight rightTyped same _ => ?_
  subst same
  refine Elaborates.outcome fun signature resolved => ?_
  exact Elaborates.record e (.applying signature) (typed leftTyped rightTyped resolved) noSites

private theorem checkArgs_elaborates {args : List Expr}
    (each : ∀ arg ∈ args, ∀ session, Elaborates env params (check env params arg) session
      (nodeOf env params arg) AnswersLast arg.postorder) (session : Session) :
    Elaborates env params (checkArgs env params args) session (argTypesOf env params args)
      (fun planned answer _ => answer = planned) (Expr.postorderAll args) := by
  induction args generalizing session with
  | nil => exact ⟨[], session, rfl, rfl, .refl session⟩
  | cons arg rest ih =>
    rw [checkArgs, argTypesOf, Expr.postorderAll]
    refine (each arg (by simp) session).bind fun node answer later _ same _ => ?_
    subst same
    have tail := ih (fun other member => each other (by simp [member])) later
    rw [← List.append_nil (Expr.postorderAll rest)]
    refine tail.bind fun types answer last _ same _ => ?_
    subst same
    exact ⟨_, last, rfl, rfl, .refl last⟩

/-- Typing an expression records its subexpressions in order of completion, with their own
types and signatures and with the conversions that they ask for. -/
theorem check_elaborates (e : Expr) (session : Session) :
    Elaborates env params (check env params e) session (nodeOf env params e) AnswersLast
      e.postorder := by
  induction e generalizing session with
  | literal value =>
    rw [check, nodeOf, Expr.postorder]
    exact Elaborates.record _ { type := value.type env.settings } (by rw [nodeOf]) (fun _ => rfl)
  | param index =>
    rw [check, nodeOf, Expr.postorder]
    cases found : params[index]? with
    | none => exact ⟨session, rfl⟩
    | some type => exact Elaborates.record _ { type } (by rw [nodeOf, found]) (fun _ => rfl)
  | na =>
    rw [check, nodeOf, Expr.postorder]
    exact Elaborates.record _ { type := .null } (by rw [nodeOf]) (fun _ => rfl)
  | binary op left right ihLeft ihRight =>
    rw [check, Expr.postorder]
    exact operation_elaborates_two ihLeft ihRight (by rw [nodeOf]) (fun _ => rfl) session
  | masked value valid ihValue ihValid =>
    rw [check, nodeOf, Expr.postorder, List.append_assoc]
    refine (ihValue session).bind fun valueNode answer afterValue valueTyped same _ => ?_
    subst same
    refine (ihValid afterValue).bind fun validNode answer afterValid validTyped same length => ?_
    subst same
    refine Elaborates.outcome fun signature resolved => ?_
    have typed : nodeOf env params (.masked value valid) = .ok (.applying signature) := by
      simp only [nodeOf, valueTyped, validTyped, resolved, bind, Except.bind]
      rfl
    have recorded := Follows.record _ _ typed
    unfold Elaborates
    rw [sitesFrom_singleton]
    by_cases view : valueNode.type = .stringView
    · -- The conversion precedes the node that asks for it.
      have wanted : sitesAt env params afterValid.nodeTypes.length (.masked value valid) =
          [⟨afterValue.nodeTypes.length - 1, .stringView, .ownedString, .materialize⟩] ++ [] := by
        have position : afterValid.nodeTypes.length - (valid.size + 1) =
            afterValue.nodeTypes.length - 1 := by
          rw [length, Expr.size]
          omega
        simp [sitesAt, typeOf, valueTyped, Except.map, view, position]
      rw [wanted]
      simp only [view, ↓reduceIte]
      exact Follows.bind (Follows.convert _ _ _ _ afterValid) fun _ _ later _ _ _ => recorded later
    · have wanted : sitesAt env params afterValid.nodeTypes.length (.masked value valid) = [] := by
        simp [sitesAt, typeOf, valueTyped, Except.map, view]
      rw [wanted]
      simp only [view, ↓reduceIte]
      exact recorded afterValid
  | unary op operand ih =>
    rw [check, Expr.postorder]
    exact operation_elaborates_one ih (by rw [nodeOf]) (fun _ => rfl) session
  | isNull left right ihLeft ihRight =>
    rw [check, Expr.postorder]
    exact operation_elaborates_two ihLeft ihRight (by rw [nodeOf]) (fun _ => rfl) session
  | len operand ih =>
    rw [check, Expr.postorder]
    exact operation_elaborates_one ih (by rw [nodeOf]) (fun _ => rfl) session
  | attr base name ih =>
    rw [check, nodeOf, Expr.postorder]
    refine (ih session).bind fun node answer later typed same _ => ?_
    subst same
    refine Elaborates.outcome fun type member => ?_
    refine Elaborates.record _ { type } ?_ (fun _ => rfl)
    simp only [nodeOf, typed, member, bind, Except.bind]
    rfl
  | call receiver name args ihReceiver ihArgs =>
    rw [check, nodeOf, Expr.postorder, List.append_assoc]
    refine (ihReceiver session).bind fun node answer afterReceiver receiverTyped same _ => ?_
    subst same
    refine (checkArgs_elaborates ihArgs afterReceiver).bind
      fun types answer afterArgs argsTyped same _ => ?_
    subst same
    refine Elaborates.outcome fun method called => ?_
    refine Elaborates.outcome fun signature resolved => ?_
    refine Elaborates.record _ (.applying signature) ?_ (fun _ => rfl)
    simp only [nodeOf, receiverTyped, argsTyped, called, resolved, bind, Except.bind]
    rfl
  | ifElse cond thenBranch elseBranch ihCond ihThen ihElse =>
    rw [check, nodeOf, Expr.postorder, List.append_assoc, List.append_assoc]
    refine (ihCond session).bind fun condNode answer afterCond condTyped same _ => ?_
    subst same
    refine Elaborates.outcome fun truth isTruth => ?_
    refine (ihThen afterCond).bind fun thenNode answer afterThen thenTyped same _ => ?_
    subst same
    refine (ihElse afterThen).bind fun elseNode answer afterElse elseTyped same length => ?_
    subst same
    refine Elaborates.outcome fun joined unified => ?_
    unfold Elaborates
    rw [sitesFrom_singleton]
    refine Follows.with_sites (Follows.bind (Follows.convertBranch _ _ _ afterElse)
      fun thenWay _ later thenOk _ _ => Follows.bind (Follows.convertBranch _ _ _ later)
        fun elseWay _ last elseOk _ _ => Follows.record _ { type := joined } ?_ last) ?_
    · simp only [nodeOf, condTyped, isTruth, thenTyped, elseTyped, unified, thenOk, elseOk, bind,
        Except.bind]
      rfl
    · intro node planned
      obtain ⟨thenWay, thenOk, rest⟩ := bind_eq_ok_iff.mp planned
      obtain ⟨elseWay, elseOk, _⟩ := bind_eq_ok_iff.mp rest
      have typed : typeOf env params (.ifElse cond thenBranch elseBranch) = .ok joined := by
        simp only [typeOf, nodeOf, condTyped, isTruth, thenTyped, elseTyped, unified, thenOk,
          elseOk, bind, Except.bind]
        rfl
      have position : afterElse.nodeTypes.length - (elseBranch.size + 1) =
          afterThen.nodeTypes.length - 1 := by
        rw [length, Expr.size]
        omega
      have thenTypeOf : typeOf env params thenBranch = .ok thenNode.type := by
        simp [typeOf, thenTyped, Except.map]
      have elseTypeOf : typeOf env params elseBranch = .ok elseNode.type := by
        simp [typeOf, elseTyped, Except.map]
      simp only [sitesAt, typed, thenTypeOf, elseTypeOf, position, List.append_nil]

/-- The type that typing answers is the expression's own, in whatever session it starts. -/
theorem check_type (e : Expr) (session : Session) :
    (check env params e session).1.map Prod.snd = typeOf env params e := by
  have elaborates : Elaborates env params (check env params e) session (nodeOf env params e)
      AnswersLast e.postorder := check_elaborates e session
  exact Follows.outcome elaborates fun node answer later same => by rw [same]

theorem checkArgs_types (args : List Expr) (session : Session) :
    (checkArgs env params args session).1 = argTypesOf env params args := by
  have elaborates : Elaborates env params (checkArgs env params args) session
      (argTypesOf env params args) (fun planned answer _ => answer = planned)
      (Expr.postorderAll args) :=
    checkArgs_elaborates (fun arg _ => check_elaborates arg) session
  have same := Follows.outcome (f := id) (g := id) elaborates fun _ _ _ same => same
  simpa using same

/-- Whatever was recorded before, typing answers the given type. -/
def Expr.TypesAs (env : TypingEnv) (params : List Ty) (e : Expr) (ty : Ty) : Prop :=
  ∀ session, ∃ node, (check env params e session).1 = .ok (node, ty)

theorem Expr.typesAs_iff : TypesAs env params e ty ↔ typeOf env params e = .ok ty := by
  constructor
  · intro typed
    obtain ⟨node, success⟩ := typed { context := .initial }
    rw [← check_type e { context := .initial }, success]
    rfl
  · intro typed session
    have answer := (check_type e session).trans typed
    cases outcome : (check env params e session).1 with
    | error failure =>
      rw [outcome] at answer
      cases answer
    | ok pair =>
      obtain ⟨node, type⟩ := pair
      rw [outcome] at answer
      cases answer
      exact ⟨node, rfl⟩

theorem Expr.typesAs_of_nodeOf (typed : nodeOf env params e = .ok node) :
    e.TypesAs env params node.type :=
  typesAs_iff.mpr (typeOf_of_nodeOf typed)

def NamesTypes (planned : Ty × Ty) (answer : TypeId × TypeId) (later : Session) : Prop :=
  later.context.lookup? planned.1 = some answer.1 ∧ later.context.lookup? planned.2 = some answer.2

private theorem checkBody_follows (env : TypingEnv) (params : List Ty) (body : Expr)
    (session : Session) :
    Follows env params (checkBody env params body) session (packedTypeOf env params body)
      NamesTypes body.postorder (sitesFrom env params session.nodeTypes.length body.postorder) := by
  rw [checkBody, packedTypeOf, ← List.append_nil body.postorder]
  refine (check_elaborates body session).bind fun node answer later _ same _ => ?_
  subst same
  refine Elaborates.outcome fun packed _ => ?_
  have first := Context.lookup?_intern later.context node.type
  have growth := Context.intern_grows (later.context.intern node.type).2 packed.result
  refine ⟨_, _, rfl, ⟨growth.lookup? first, Context.lookup?_intern _ packed.result⟩, ?_⟩
  exact .of_context ((Context.intern_grows _ _).trans growth)

/-- The typed function shows a body with the given type and packed type. -/
structure TypedFunction.Shows (env : TypingEnv) (params : List Ty) (ctx : Context)
    (typed : TypedFunction) (body : Expr) (type packed : Ty) : Prop where
  nodeTypes : List.Forall₂ (TypeId.Shows env params ctx) typed.nodeTypes body.postorder
  signatures : typed.signatures = signaturesFrom env params 0 body.postorder
  conversions : List.Forall₂ (ConversionSite.Shows ctx) typed.conversions
    (sitesFrom env params 0 body.postorder)
  body : ctx.lookup? type = some typed.body
  result : ctx.lookup? packed = some typed.result

theorem TypedFunction.Shows.each_node {typed : TypedFunction} {body : Expr}
    (shown : typed.Shows env params ctx body type packed) :
    List.Forall₂ (TypedNode.Shows env params ctx) typed.nodes body.postorder := by
  rw [TypedFunction.nodes, shown.signatures]
  exact TypedNode.list_shows shown.nodeTypes

/-- Typing a function shows what the body is by itself, in whatever context it starts. -/
theorem inferFunction_ok (typed : packedTypeOf env params body = .ok (type, packed))
    (ctx : Context) :
    ∃ function grown, inferFunction env ctx params body = (.ok function, grown) ∧
      ctx.Grows grown ∧ function.Shows env params grown body type packed := by
  have follows := checkBody_follows env params body { context := ctx.internAll params }
  rw [typed] at follows
  obtain ⟨⟨bodyId, packedId⟩, later, ran, ⟨foundBody, foundPacked⟩, growth,
    ⟨nodes, nodesEq, shownNodes⟩, signed, ⟨sites, sitesEq, shownSites⟩⟩ := follows
  refine ⟨⟨later.nodeTypes, later.signatures, later.conversions, bodyId, packedId⟩,
    later.context, ?_, (ctx.internAll_grows params).trans growth, ?_⟩
  · simp only [inferFunction, ExceptT.run, StateT.run, ran]
    rfl
  · refine ⟨?_, ?_, ?_, foundBody, foundPacked⟩
    · simpa [nodesEq] using shownNodes
    · simpa using signed
    · simpa [sitesEq] using shownSites

theorem inferFunction_error {failure : TypeError}
    (failed : packedTypeOf env params body = .error failure) (ctx : Context) :
    ∃ grown, inferFunction env ctx params body = (.error failure, grown) := by
  have follows := checkBody_follows env params body { context := ctx.internAll params }
  rw [failed] at follows
  obtain ⟨later, ran⟩ := follows
  refine ⟨later.context, ?_⟩
  simp only [inferFunction, ExceptT.run, StateT.run, ran]
  rfl

theorem inferFunction_planned
    (success : inferFunction env ctx params body = (.ok function, grown)) :
    ∃ type packed, packedTypeOf env params body = .ok (type, packed) ∧
      function.Shows env params grown body type packed := by
  cases outcome : packedTypeOf env params body with
  | error failure =>
    obtain ⟨_, failed⟩ := inferFunction_error outcome ctx
    cases success.symm.trans failed
  | ok types =>
    obtain ⟨actual, final, succeeded, _, shown⟩ := inferFunction_ok outcome ctx
    obtain ⟨sameFunction, sameContext⟩ := Prod.mk.inj (success.symm.trans succeeded)
    cases Except.ok.inj sameFunction
    subst sameContext
    exact ⟨types.1, types.2, rfl, shown⟩

theorem inferFunction_shows (success : inferFunction env ctx params body = (.ok function, grown)) :
    ∃ type packed, function.Shows env params grown body type packed := by
  obtain ⟨type, packed, _, shown⟩ := inferFunction_planned success
  exact ⟨type, packed, shown⟩

/-- Both functions are typed, with the same types of the body and of the packed result, or
neither is. -/
def AgreeOnTypes (first second : Except TypeError TypedFunction × Context) : Prop :=
  Matches (fun function function' =>
      ∃ type packed, first.2.get? function.body = some type ∧
        second.2.get? function'.body = some type ∧
        first.2.get? function.result = some packed ∧
        second.2.get? function'.result = some packed)
    first.1 second.1

theorem inferFunction_agree
    (same : Matches (· = ·) (packedTypeOf env params body) (packedTypeOf env' params' body'))
    (ctx ctx' : Context) :
    AgreeOnTypes (inferFunction env ctx params body) (inferFunction env' ctx' params' body') := by
  cases first : packedTypeOf env params body with
  | error failure =>
    cases second : packedTypeOf env' params' body' with
    | error failure' =>
      obtain ⟨grown, failed⟩ := inferFunction_error first ctx
      obtain ⟨grown', failed'⟩ := inferFunction_error second ctx'
      rw [failed, failed']
      trivial
    | ok types =>
      rw [first, second] at same
      exact same.elim
  | ok types =>
    cases second : packedTypeOf env' params' body' with
    | error failure =>
      rw [first, second] at same
      exact same.elim
    | ok types' =>
      rw [first, second] at same
      cases same
      obtain ⟨function, grown, success, _, shown⟩ := inferFunction_ok first ctx
      obtain ⟨function', grown', success', _, shown'⟩ := inferFunction_ok second ctx'
      rw [success, success']
      exact ⟨types.1, types.2, Context.get?_of_lookup? shown.body,
        Context.get?_of_lookup? shown'.body, Context.get?_of_lookup? shown.result,
        Context.get?_of_lookup? shown'.result⟩

end RowTyping
