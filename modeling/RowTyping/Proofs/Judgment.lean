import RowTyping.Infer.Check
import RowTyping.Proofs.Interning
import RowTyping.Proofs.Postorder
import Mathlib.Control.Monad.Basic

/-! The typing of an expression by itself: the type and the signature of its root, or the
first failure. Nothing is recorded, and no context is consulted. -/

namespace RowTyping

/-! Steps that may fail and keep what they did before. -/

section Steps

variable {step : ExceptT ε (StateM σ) α} {next : α → ExceptT ε (StateM σ) β} {state later : σ}

theorem bind_ok (ran : step state = (.ok answer, later)) :
    (step >>= next) state = next answer later := by
  simp only [bind, ExceptT.bind, ExceptT.mk, ExceptT.bindCont, StateT.bind, ran]

theorem bind_error {failure : ε} (ran : step state = (.error failure, later)) :
    (step >>= next) state = (.error failure, later) := by
  simp only [bind, ExceptT.bind, ExceptT.mk, ExceptT.bindCont, StateT.bind, ran]
  rfl

end Steps

theorem bind_eq_ok_iff {first : Except TypeError α} {next : α → Except TypeError β} {answer : β} :
    (first >>= next) = .ok answer ↔ ∃ middle, first = .ok middle ∧ next middle = .ok answer := by
  cases first with
  | error failure => simp [bind, Except.bind]
  | ok middle => simp [bind, Except.bind]

/-- Two computations succeed together, with related answers, or fail together. -/
def Matches (related : α → β → Prop) : Except TypeError α → Except TypeError β → Prop
  | .ok first, .ok second => related first second
  | .error _, .error _ => True
  | _, _ => False

theorem Matches.imp {first : Except TypeError α} {second : Except TypeError β}
    (start : Matches related first second)
    (weaker : ∀ answer answer', related answer answer' → other answer answer') :
    Matches other first second := by
  cases first <;> cases second
  case ok.ok answer answer' => exact weaker answer answer' start
  all_goals exact start

theorem Matches.map_iff {first : Except TypeError α} {second : Except TypeError β}
    {f : α → γ} {g : β → δ} :
    Matches related (first.map f) (second.map g) ↔
      Matches (fun answer answer' => related (f answer) (g answer')) first second := by
  cases first <;> cases second <;> exact Iff.rfl

theorem Matches.bind {first : Except TypeError α} {second : Except TypeError β}
    {next : α → Except TypeError γ} {other : β → Except TypeError δ}
    (start : Matches related first second)
    (rest : ∀ answer answer', first = .ok answer → second = .ok answer' → related answer answer' →
      Matches relatedNext (next answer) (other answer')) :
    Matches relatedNext (first >>= next) (second >>= other) := by
  cases first with
  | error failure =>
    cases second with
    | error failure' => exact start
    | ok answer' => exact start.elim
  | ok answer =>
    cases second with
    | error failure' => exact start.elim
    | ok answer' => exact rest answer answer' rfl rfl start

theorem Matches.refl {outcome : Except TypeError α} {related : α → α → Prop}
    (reflexive : ∀ answer, related answer answer) : Matches related outcome outcome := by
  cases outcome with
  | ok answer => exact reflexive answer
  | error failure => trivial

theorem Matches.symm {first : Except TypeError α} {second : Except TypeError β}
    (same : Matches related first second) :
    Matches (fun answer answer' => related answer' answer) second first := by
  cases first <;> cases second <;> exact same

theorem Matches.trans {first : Except TypeError α} {second : Except TypeError β}
    {third : Except TypeError γ} (start : Matches related first second)
    (next : Matches relatedNext second third)
    (composed : ∀ x y z, related x y → relatedNext y z → other x z) :
    Matches other first third := by
  cases second with
  | error failure =>
    cases first with
    | error => cases third <;> exact next
    | ok answer => exact start.elim
  | ok answer =>
    cases first with
    | error => exact start.elim
    | ok first =>
      cases third with
      | error => exact next.elim
      | ok third => exact composed _ _ _ start next

/-- The same start, and matching ends. -/
theorem Matches.after {first : Except TypeError α} {next : α → Except TypeError β}
    {other : α → Except TypeError γ}
    (rest : ∀ answer, Matches related (next answer) (other answer)) :
    Matches related (first >>= next) (first >>= other) := by
  cases first with
  | error failure => trivial
  | ok answer => exact rest answer

/-- Two independent computations may be run in either order. -/
theorem Matches.swap {first : Except TypeError α} {second : Except TypeError β}
    {next : α → β → Except TypeError γ} {other : β → α → Except TypeError δ}
    (rest : ∀ x y, Matches related (next x y) (other y x)) :
    Matches related (do next (← first) (← second)) (do other (← second) (← first)) := by
  cases first with
  | error failure => cases second <;> trivial
  | ok x =>
    cases second with
    | error failure => trivial
    | ok y => exact rest x y

/-- The type of a node and the signature of the operation that it applies. -/
structure Node where
  type : Ty
  signature : Option Signature := none
deriving DecidableEq, Repr

def Node.applying (signature : Signature) : Node := ⟨signature.result, some signature⟩

mutual

/-- The root of an expression under parameter types. -/
def nodeOf (env : TypingEnv) (params : List Ty) : Expr → Except TypeError Node
  | .literal value => .ok { type := value.type env.settings }
  | .param index =>
    match params[index]? with
    | some type => .ok { type }
    | none => .error (.unknownParameter index)
  | .na => .ok { type := .null }
  | .masked value valid => do
    let value ← nodeOf env params value
    let valid ← nodeOf env params valid
    let signature ← resolve env .construct [value.type, valid.type]
    return .applying signature
  | .binary op left right => do
    let left ← nodeOf env params left
    let right ← nodeOf env params right
    let signature ← resolve env (.binary op) [left.type, right.type]
    return .applying signature
  | .unary op operand => do
    let operand ← nodeOf env params operand
    let signature ← resolve env (.unary op) [operand.type]
    return .applying signature
  | .isNull left right => do
    let left ← nodeOf env params left
    let right ← nodeOf env params right
    let signature ← resolve env .isNull [left.type, right.type]
    return .applying signature
  | .len operand => do
    let operand ← nodeOf env params operand
    let signature ← resolve env .len [operand.type]
    return .applying signature
  | .attr base name => do
    let base ← nodeOf env params base
    let type ← memberType env base.type name
    return { type }
  | .call receiver name args => do
    let receiver ← nodeOf env params receiver
    let args ← argTypesOf env params args
    let method ← calledMethod env receiver.type name
    let signature ← method.signature env receiver.type args
    return .applying signature
  | .ifElse cond thenBranch elseBranch => do
    let cond ← nodeOf env params cond
    let _ ← resolve env .truth [cond.type]
    let thenNode ← nodeOf env params thenBranch
    let elseNode ← nodeOf env params elseBranch
    let joined ← Ty.unify env.scalar thenNode.type elseNode.type
    let _ ← Conversion.classify env.scalar thenNode.type joined
    let _ ← Conversion.classify env.scalar elseNode.type joined
    return { type := joined }

def argTypesOf (env : TypingEnv) (params : List Ty) : List Expr → Except TypeError (List Ty)
  | [] => return []
  | arg :: rest => do
    let node ← nodeOf env params arg
    let types ← argTypesOf env params rest
    return node.type :: types

end

def typeOf (env : TypingEnv) (params : List Ty) (e : Expr) : Except TypeError Ty :=
  (nodeOf env params e).map Node.type

theorem typeOf_eq_ok_iff :
    typeOf env params e = .ok type ↔ ∃ node, nodeOf env params e = .ok node ∧ node.type = type := by
  unfold typeOf
  cases nodeOf env params e <;> simp [Except.map]

theorem typeOf_of_nodeOf {node : Node} (typed : nodeOf env params e = .ok node) :
    typeOf env params e = .ok node.type :=
  typeOf_eq_ok_iff.mpr ⟨node, typed, rfl⟩

theorem resolveOne_ok {operand : Except TypeError Node}
    (typed : (do
      let node ← operand
      let signature ← resolve env operation [node.type]
      return Node.applying signature) = .ok answer) :
    ∃ node signature, operand = .ok node ∧ resolve env operation [node.type] = .ok signature ∧
      answer = .applying signature := by
  obtain ⟨node, success, typed⟩ := bind_eq_ok_iff.mp typed
  obtain ⟨signature, resolved, typed⟩ := bind_eq_ok_iff.mp typed
  exact ⟨node, signature, success, resolved, (Except.ok.inj typed).symm⟩

theorem resolveTwo_ok {left right : Except TypeError Node}
    (typed : (do
      let leftNode ← left
      let rightNode ← right
      let signature ← resolve env operation [leftNode.type, rightNode.type]
      return Node.applying signature) = .ok answer) :
    ∃ leftNode rightNode signature, left = .ok leftNode ∧ right = .ok rightNode ∧
      resolve env operation [leftNode.type, rightNode.type] = .ok signature ∧
      answer = .applying signature := by
  obtain ⟨leftNode, leftOk, typed⟩ := bind_eq_ok_iff.mp typed
  obtain ⟨rightNode, rightOk, typed⟩ := bind_eq_ok_iff.mp typed
  obtain ⟨signature, resolved, typed⟩ := bind_eq_ok_iff.mp typed
  exact ⟨leftNode, rightNode, signature, leftOk, rightOk, resolved, (Except.ok.inj typed).symm⟩

theorem nodeOf_ifElse_ok {cond thenBranch elseBranch : Expr} {node : Node}
    (typed : nodeOf env params (.ifElse cond thenBranch elseBranch) = .ok node) :
    ∃ condNode thenNode elseNode, nodeOf env params cond = .ok condNode ∧
      (∃ signature, resolve env .truth [condNode.type] = .ok signature) ∧
      nodeOf env params thenBranch = .ok thenNode ∧ nodeOf env params elseBranch = .ok elseNode ∧
      Ty.unify env.scalar thenNode.type elseNode.type = .ok node.type ∧
      (∃ way, Conversion.classify env.scalar thenNode.type node.type = .ok way) ∧
      (∃ way, Conversion.classify env.scalar elseNode.type node.type = .ok way) ∧
      node.signature = none := by
  rw [nodeOf] at typed
  obtain ⟨condNode, condTyped, typed⟩ := bind_eq_ok_iff.mp typed
  obtain ⟨signature, truth, typed⟩ := bind_eq_ok_iff.mp typed
  obtain ⟨thenNode, thenTyped, typed⟩ := bind_eq_ok_iff.mp typed
  obtain ⟨elseNode, elseTyped, typed⟩ := bind_eq_ok_iff.mp typed
  obtain ⟨joined, unified, typed⟩ := bind_eq_ok_iff.mp typed
  obtain ⟨thenWay, thenOk, typed⟩ := bind_eq_ok_iff.mp typed
  obtain ⟨elseWay, elseOk, typed⟩ := bind_eq_ok_iff.mp typed
  cases Except.ok.inj typed
  exact ⟨condNode, thenNode, elseNode, condTyped, ⟨signature, truth⟩, thenTyped, elseTyped,
    unified, ⟨thenWay, thenOk⟩, ⟨elseWay, elseOk⟩, rfl⟩

section Calls

variable {env : TypingEnv} {receiver : Ty} {name : String} {args : List Ty} {signature : Signature}
  {method : StringMethod}

theorem TypingEnv.requireStrings_eq_ok_iff {operation : String} :
    env.requireStrings operation = .ok () ↔ env.settings.stringOps := by
  unfold requireStrings
  split
  next allowed => simp [allowed]
  next off => simp [off]

/-- A call names its receiver and its arguments, and all of them are masked strings. -/
theorem StringMethod.signature_eq_ok_iff :
    method.signature env receiver args = .ok signature ↔
      receiver = .maskedString ∧ env.settings.stringOps ∧
        args = List.replicate method.arity .maskedString ∧
        signature = ⟨method.result, args, some receiver⟩ := by
  rw [List.eq_replicate_iff]
  constructor
  · intro typed
    unfold StringMethod.signature at typed
    split at typed
    · cases typed
    next receives =>
      split at typed
      · cases typed
      next allowed =>
        split at typed
        · cases typed
        next count =>
          split at typed
          · cases typed
          next fits =>
            cases typed
            refine ⟨Decidable.not_not.mp receives, TypingEnv.requireStrings_eq_ok_iff.mp allowed,
              ⟨Decidable.not_not.mp count, ?_⟩, rfl⟩
            simpa using List.find?_eq_none.mp fits
  · rintro ⟨rfl, allowed, ⟨count, fits⟩, rfl⟩
    have noStray : args.find? (· ≠ .maskedString) = none := by
      simpa using fits
    unfold StringMethod.signature
    rw [if_neg (Decidable.not_not.mpr rfl), TypingEnv.requireStrings_eq_ok_iff.mpr allowed]
    dsimp only
    rw [if_neg (Decidable.not_not.mpr count), noStray]

theorem StringMethod.ofName?_eq_some_iff : ofName? name = some method ↔ method.name = name := by
  constructor
  · intro found
    simpa using List.find?_some found
  · rintro rfl
    cases method <;> decide

/-- Methods are attributes of masked strings alone, and only while string operations are on. -/
theorem Attribute.resolve_eq_method_iff :
    Attribute.resolve env receiver name = .ok (.method method) ↔
      receiver = .maskedString ∧ StringMethod.ofName? name = some method ∧
        env.settings.stringOps := by
  constructor
  · intro found
    unfold Attribute.resolve at found
    split at found
    next value =>
      split at found
      · cases found
      · cases found
      · split at found
        next bound named =>
          split at found
          next text =>
            cases value with
            | primitive p => cases text
            | ownedString =>
              cases allowed : env.requireStrings bound.name with
              | error failure =>
                rw [allowed] at found
                cases found
              | ok =>
                rw [allowed] at found
                cases found
                exact ⟨rfl, named, TypingEnv.requireStrings_eq_ok_iff.mp allowed⟩
          next => cases found
        next => cases found
    next => cases found
  · rintro ⟨rfl, named, allowed⟩
    have bound : Attribute.resolve env .maskedString name =
        (env.requireStrings method.name).map fun _ => .method method := by
      cases StringMethod.ofName?_eq_some_iff.mp named
      cases method <;> rfl
    rw [bound, TypingEnv.requireStrings_eq_ok_iff.mpr allowed]
    rfl

theorem calledMethod_eq_ok_iff :
    calledMethod env receiver name = .ok method ↔
      Attribute.resolve env receiver name = .ok (.method method) := by
  unfold calledMethod
  rw [bind_eq_ok_iff]
  constructor
  · rintro ⟨answer, found, called⟩
    cases answer with
    | member type => cases called
    | method bound =>
      cases called
      exact found
  · intro found
    exact ⟨_, found, rfl⟩

end Calls

def packedTypeOf (env : TypingEnv) (params : List Ty) (body : Expr) :
    Except TypeError (Ty × Ty) := do
  let node ← nodeOf env params body
  let packed ← resolve env .pack [node.type]
  return (node.type, packed.result)

/-- A conversion of a node's value, with the types themselves. -/
structure Site where
  node : NodeId
  source : Ty
  target : Ty
  conversion : Conversion
deriving DecidableEq, Repr

/-- The conversion of one branch at a join; equal types need none. -/
def branchSites (scalar : ScalarTyping) (node : NodeId) (branch joined : Ty) : List Site :=
  match Conversion.classify scalar branch joined with
  | .ok conversion =>
    if conversion.isNoop then [] else [⟨node, branch, joined, conversion⟩]
  | .error _ => []

/-- The numbers of the branches of the node with number `consumer`. -/
def Expr.branchRoots (consumer : NodeId) : Expr → List NodeId
  | .ifElse _ _ elseBranch => [consumer - (elseBranch.size + 1), consumer - 1]
  | _ => []

/-- The number of the value that the node with number `consumer` masks. -/
def Expr.valueRoots (consumer : NodeId) : Expr → List NodeId
  | .masked _ valid => [consumer - (valid.size + 1)]
  | _ => []

def sitesAt (env : TypingEnv) (params : List Ty) (consumer : NodeId) (e : Expr) : List Site :=
  match e with
  | .masked value valid =>
    match typeOf env params value with
    | .ok .stringView =>
      [⟨consumer - (valid.size + 1), .stringView, .ownedString, .materialize⟩]
    | _ => []
  | .ifElse _ thenBranch elseBranch =>
    match typeOf env params thenBranch, typeOf env params elseBranch, typeOf env params e with
    | .ok thenType, .ok elseType, .ok joined =>
      branchSites env.scalar (consumer - (elseBranch.size + 1)) thenType joined ++
        branchSites env.scalar (consumer - 1) elseType joined
    | _, _, _ => []
  | _ => []

/-- The conversions that the nodes of an expression ask for, where its first node has the
number `start`. -/
def sitesFrom (env : TypingEnv) (params : List Ty) (start : NodeId) (nodes : List Expr) :
    List Site :=
  (nodes.zipIdx start).flatMap fun (e, consumer) => sitesAt env params consumer e

theorem sitesFrom_append (env : TypingEnv) (params : List Ty) (start : NodeId)
    (front rest : List Expr) :
    sitesFrom env params start (front ++ rest) =
      sitesFrom env params start front ++ sitesFrom env params (start + front.length) rest := by
  simp [sitesFrom, List.zipIdx_append]

theorem sitesFrom_singleton (env : TypingEnv) (params : List Ty) (consumer : NodeId) (e : Expr) :
    sitesFrom env params consumer [e] = sitesAt env params consumer e := by
  simp [sitesFrom]

def signatureOf (env : TypingEnv) (params : List Ty) (e : Expr) : Option Signature :=
  (nodeOf env params e).toOption.bind Node.signature

theorem signatureOf_of_nodeOf {node : Node} (typed : nodeOf env params e = .ok node) :
    signatureOf env params e = node.signature := by
  simp [signatureOf, typed, Except.toOption]

/-- The signatures of the operations among the nodes of an expression, the last one first. -/
def signaturesFrom (env : TypingEnv) (params : List Ty) (start : NodeId) (nodes : List Expr) :
    List (NodeId × Signature) :=
  ((nodes.zipIdx start).filterMap fun (e, node) =>
    (signatureOf env params e).map (node, ·)).reverse

theorem signaturesFrom_append (env : TypingEnv) (params : List Ty) (start : NodeId)
    (front rest : List Expr) :
    signaturesFrom env params start (front ++ rest) =
      signaturesFrom env params (start + front.length) rest ++
        signaturesFrom env params start front := by
  simp [signaturesFrom, List.zipIdx_append]

theorem mem_signaturesFrom_iff {nodes : List Expr} :
    (node, signature) ∈ signaturesFrom env params 0 nodes ↔
      ∃ e, nodes[node]? = some e ∧ signatureOf env params e = some signature := by
  simp only [signaturesFrom, List.mem_reverse, List.mem_filterMap, Prod.exists,
    List.mem_zipIdx_iff_getElem?, Option.map_eq_some_iff, Prod.mk.injEq]
  constructor
  · rintro ⟨e, index, found, signature, signed, rfl, rfl⟩
    exact ⟨e, found, signed⟩
  · rintro ⟨e, found, signed⟩
    exact ⟨e, node, found, signature, signed, rfl, rfl⟩

/-- A number has one signature at most. -/
theorem signaturesFrom_keys (env : TypingEnv) (params : List Ty) (nodes : List Expr) :
    ((signaturesFrom env params 0 nodes).map Prod.fst).Nodup := by
  rw [signaturesFrom, List.Nodup, List.pairwise_map, List.pairwise_reverse]
  have increasing : nodes.zipIdx.Pairwise (fun first second => first.2 < second.2) := by
    rw [← List.pairwise_map, List.zipIdx_map_snd]
    exact List.pairwise_lt_range'
  refine increasing.filterMap _ ?_
  rintro ⟨e, node⟩ ⟨other, later⟩ below entry signed entry' signed'
  obtain ⟨_, _, rfl⟩ := Option.map_eq_some_iff.mp signed
  obtain ⟨_, _, rfl⟩ := Option.map_eq_some_iff.mp signed'
  exact Nat.ne_of_gt below

theorem lookup_signaturesFrom {nodes : List Expr} (found : nodes[node]? = some e) :
    (signaturesFrom env params 0 nodes).lookup node = signatureOf env params e := by
  cases signed : signatureOf env params e with
  | some signature =>
    exact (lookup_eq_some_iff_mem (signaturesFrom_keys env params nodes)).mpr
      (mem_signaturesFrom_iff.mpr ⟨e, found, signed⟩)
  | none =>
    rw [List.lookup_eq_none_iff]
    rintro ⟨key, signature⟩ member
    obtain ⟨other, foundOther, signedOther⟩ := mem_signaturesFrom_iff.mp member
    rw [bne_iff_ne]
    rintro rfl
    cases found.symm.trans foundOther
    cases signed.symm.trans signedOther

end RowTyping
