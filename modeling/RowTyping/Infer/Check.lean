import RowTyping.Attribute
import RowTyping.Context
import RowTyping.Conversion
import RowTyping.Expr
import RowTyping.Unify

/-! Typing of a function body against a shared context. Nodes are numbered as they are
finished, operands before the node that uses them and from the left, so the body is always
the last node. A type is interned when it is recorded, so a failing body leaves in the
context what it had recorded before the failure. -/

namespace RowTyping

/-- Number of a node in order of completion. -/
abbrev NodeId := Nat

/-- A typed node, with the signature of the operation that it applies. -/
structure TypedNode where
  type : TypeId
  signature : Option Signature
deriving DecidableEq, Repr

/-- The nodes in order, with the signatures that are kept under their numbers. -/
def TypedNode.list (types : List TypeId) (signatures : List (NodeId × Signature)) :
    List TypedNode :=
  types.mapIdx fun node type => ⟨type, signatures.lookup node⟩

structure ConversionSite where
  node : NodeId
  source : TypeId
  target : TypeId
  conversion : Conversion
deriving DecidableEq, Repr

/-- What typing has recorded so far. -/
structure Session where
  context : Context
  nodeTypes : List TypeId := []
  signatures : List (NodeId × Signature) := []
  conversions : List ConversionSite := []
deriving DecidableEq, Repr

def Session.nodes (session : Session) : List TypedNode :=
  TypedNode.list session.nodeTypes session.signatures

/-- Typing steps: a step may fail, and what it recorded before stays recorded. -/
abbrev Check (α : Type) := ExceptT TypeError (StateM Session) α

namespace Check

def intern (type : Ty) : Check TypeId := fun session =>
  let (id, context) := session.context.intern type
  (.ok id, { session with context })

/-- Record a finished node and answer its number and type. -/
def record (type : Ty) (signature : Option Signature := none) : Check (NodeId × Ty) :=
  fun session =>
    let node := session.nodeTypes.length
    let (id, context) := session.context.intern type
    let signatures := match signature with
      | some signature => (node, signature) :: session.signatures
      | none => session.signatures
    (.ok (node, type),
      { session with context, nodeTypes := session.nodeTypes ++ [id], signatures })

def convert (node : NodeId) (source target : Ty) (conversion : Conversion) : Check Unit :=
  fun session =>
    let (sourceId, context) := session.context.intern source
    let (targetId, context) := context.intern target
    (.ok (),
      { session with
        context
        conversions := session.conversions ++ [⟨node, sourceId, targetId, conversion⟩] })

def ofOutcome {α : Type} (outcome : Except TypeError α) : Check α :=
  fun session => (outcome, session)

def recordSignature (signature : Signature) : Check (NodeId × Ty) :=
  record signature.result (some signature)

/-- Record the conversion of a branch to the joined type, unless the types are equal. -/
def convertBranch (env : TypingEnv) (node : NodeId) (branch joined : Ty) : Check Unit := do
  let conversion ← ofOutcome (Conversion.classify env.scalar branch joined)
  if conversion.isNoop then pure () else convert node branch joined conversion

end Check

/-- The method of a call. A member of the receiver is not callable. -/
def calledMethod (env : TypingEnv) (receiver : Ty) (name : String) :
    Except TypeError StringMethod := do
  match ← Attribute.resolve env receiver name with
  | .method method => .ok method
  | .member _ => .error (.unknownAttribute receiver.name (name ++ "()"))

/-- The type of a member. A method that is not called is not a value. -/
def memberType (env : TypingEnv) (receiver : Ty) (name : String) : Except TypeError Ty := do
  match ← Attribute.resolve env receiver name with
  | .member type => .ok type
  | .method _ => .error (.unknownAttribute receiver.name name)

open Check

mutual

def check (env : TypingEnv) (params : List Ty) : Expr → Check (NodeId × Ty)
  | .literal value => record (value.type env.settings)
  | .param index =>
    match params[index]? with
    | some type => record type
    | none => ofOutcome (.error (.unknownParameter index))
  | .na => record .null
  | .masked value valid => do
    let (node, valueType) ← check env params value
    let (_, validType) ← check env params valid
    let signature ← ofOutcome (resolve env .construct [valueType, validType])
    if valueType = .stringView then convert node .stringView .ownedString .materialize
    recordSignature signature
  | .binary op left right => do
    let (_, leftType) ← check env params left
    let (_, rightType) ← check env params right
    let signature ← ofOutcome (resolve env (.binary op) [leftType, rightType])
    recordSignature signature
  | .unary op operand => do
    let (_, type) ← check env params operand
    let signature ← ofOutcome (resolve env (.unary op) [type])
    recordSignature signature
  | .isNull left right => do
    let (_, leftType) ← check env params left
    let (_, rightType) ← check env params right
    let signature ← ofOutcome (resolve env .isNull [leftType, rightType])
    recordSignature signature
  | .len operand => do
    let (_, type) ← check env params operand
    let signature ← ofOutcome (resolve env .len [type])
    recordSignature signature
  | .attr base name => do
    let (_, receiver) ← check env params base
    let type ← ofOutcome (memberType env receiver name)
    record type
  | .call receiver name args => do
    let (_, receiverType) ← check env params receiver
    let argTypes ← checkArgs env params args
    let method ← ofOutcome (calledMethod env receiverType name)
    let signature ← ofOutcome (method.signature env receiverType argTypes)
    recordSignature signature
  | .ifElse cond thenBranch elseBranch => do
    let (_, condType) ← check env params cond
    let _ ← ofOutcome (resolve env .truth [condType])
    let (thenNode, thenType) ← check env params thenBranch
    let (elseNode, elseType) ← check env params elseBranch
    let joined ← ofOutcome (Ty.unify env.scalar thenType elseType)
    convertBranch env thenNode thenType joined
    convertBranch env elseNode elseType joined
    record joined

def checkArgs (env : TypingEnv) (params : List Ty) : List Expr → Check (List Ty)
  | [] => pure []
  | arg :: rest => do
    let (_, type) ← check env params arg
    let types ← checkArgs env params rest
    pure (type :: types)

end

/-- Type a body and pack its type, answering the ids of the body's type and of the packed
one. -/
def checkBody (env : TypingEnv) (params : List Ty) (body : Expr) : Check (TypeId × TypeId) := do
  let (_, type) ← check env params body
  let packed ← ofOutcome (resolve env .pack [type])
  let bodyId ← intern type
  let packedId ← intern packed.result
  pure (bodyId, packedId)

end RowTyping
