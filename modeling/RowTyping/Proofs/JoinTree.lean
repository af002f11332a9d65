import RowTyping.Proofs.Composition
import RowTyping.Proofs.Elaboration
import RowTyping.Proofs.JoinOrder

/-! Joins of many types. A tree of joins yields the least type above its leaves, so neither the
order nor the nesting of the branches matters. Two mixtures of leaves are exceptional: `float32`
with `uint16`, above which a join may overshoot, and `NA` with a string literal, which have no
join although an owned string may join each of them first. -/

namespace RowTyping

open Ty

/-- Types joined two by two. -/
inductive JoinTree where
  | leaf (type : Ty)
  | join (left right : JoinTree)
deriving DecidableEq, Repr

namespace JoinTree

variable {tree first second : JoinTree} {ty bound : Ty} {types others : List Ty}

def leaves : JoinTree → List Ty
  | .leaf type => [type]
  | .join left right => left.leaves ++ right.leaves

def type : JoinTree → Except TypeError Ty
  | .leaf type => .ok type
  | .join left right => do
    let leftType ← left.type
    let rightType ← right.type
    Ty.unify .numeric leftType rightType

private theorem type_join_ok (typed : (join left right).type = .ok ty) :
    ∃ leftType rightType, left.type = .ok leftType ∧ right.type = .ok rightType ∧
      Ty.unify .numeric leftType rightType = .ok ty := by
  rw [type] at typed
  obtain ⟨leftType, leftTyped, typed⟩ := bind_eq_ok_iff.mp typed
  obtain ⟨rightType, rightTyped, typed⟩ := bind_eq_ok_iff.mp typed
  exact ⟨leftType, rightType, leftTyped, rightTyped, typed⟩

theorem leaf_below {leaf : Ty} (typed : tree.type = .ok ty) (member : leaf ∈ tree.leaves) :
    Below leaf ty := by
  induction tree generalizing ty with
  | leaf type =>
    cases typed
    cases List.mem_singleton.mp member
    exact .refl _
  | join left right ihLeft ihRight =>
    obtain ⟨leftType, rightType, leftTyped, rightTyped, joins⟩ := type_join_ok typed
    rcases List.mem_append.mp member with inLeft | inRight
    · exact (ihLeft leftTyped inLeft).trans (unify_below_left joins)
    · exact (ihRight rightTyped inRight).trans (unify_below_right joins)

/-- What a join only ever takes over from an operand, a tree takes over from a leaf. -/
theorem exists_leaf {property : Ty → Prop}
    (step : ∀ a b joined, Ty.unify .numeric a b = .ok joined → property joined →
      property a ∨ property b)
    (typed : tree.type = .ok ty) (holds : property ty) : ∃ leaf ∈ tree.leaves, property leaf := by
  induction tree generalizing ty with
  | leaf type =>
    cases typed
    exact ⟨_, List.mem_singleton_self _, holds⟩
  | join left right ihLeft ihRight =>
    obtain ⟨leftType, rightType, leftTyped, rightTyped, joins⟩ := type_join_ok typed
    rcases step _ _ _ joins holds with inLeft | inRight
    · obtain ⟨leaf, member, found⟩ := ihLeft leftTyped inLeft
      exact ⟨leaf, List.mem_append_left _ member, found⟩
    · obtain ⟨leaf, member, found⟩ := ihRight rightTyped inRight
      exact ⟨leaf, List.mem_append_right _ member, found⟩

private theorem exists_primitive_leaf (unsigned : p.isSigned = false) (narrow : p ≠ .float64)
    (typed : tree.type = .ok ty) (bare : ty.unmasked = .primitive p) :
    ∃ leaf ∈ tree.leaves, leaf.unmasked = .primitive p := by
  refine exists_leaf ?_ typed bare
  intro a b joined joins found
  exact unify_primitive_origin joins found unsigned narrow

private theorem null_mem_leaves (typed : tree.type = .ok .null) : .null ∈ tree.leaves := by
  have step : ∀ a b joined, Ty.unify .numeric a b = .ok joined → joined = .null →
      a = .null ∨ b = .null := by
    rintro a b _ joins rfl
    exact .inl (below_null_iff.mp (unify_below_left joins))
  obtain ⟨leaf, member, rfl⟩ := exists_leaf step typed rfl
  exact member

private theorem literal_mem_leaves (typed : tree.type = .ok .stringLiteral) :
    .stringLiteral ∈ tree.leaves := by
  have step : ∀ a b joined, Ty.unify .numeric a b = .ok joined → joined = .stringLiteral →
      a = .stringLiteral ∨ b = .stringLiteral := by
    rintro a b _ joins rfl
    exact .inl (below_literal_iff.mp (unify_below_left joins))
  obtain ⟨leaf, member, rfl⟩ := exists_leaf step typed rfl
  exact member

/-- A type above all the given ones, and no `float32` that a `uint16` among them overshoots. -/
structure SafeBound (types : List Ty) (bound : Ty) : Prop where
  above : ∀ ty ∈ types, Below ty bound
  safe : bound.unmasked = .primitive .float32 → ∀ ty ∈ types, ty.unmasked ≠ .primitive (.uint .w16)

theorem SafeBound.mono (bounds : SafeBound types bound) (fewer : ∀ ty ∈ others, ty ∈ types) :
    SafeBound others bound where
  above ty member := bounds.above ty (fewer ty member)
  safe narrow ty member := bounds.safe narrow ty (fewer ty member)

theorem SafeBound.left {left right : JoinTree}
    (bounds : SafeBound (join left right).leaves bound) : SafeBound left.leaves bound :=
  bounds.mono fun _ => List.mem_append_left right.leaves

theorem SafeBound.right {left right : JoinTree}
    (bounds : SafeBound (join left right).leaves bound) : SafeBound right.leaves bound :=
  bounds.mono fun _ => List.mem_append_right left.leaves

/-- A `uint16` that a tree yields is one of its leaves, so it overshoots no safe bound of them. -/
theorem SafeBound.not_overshot (bounds : SafeBound tree.leaves bound) (typed : tree.type = .ok ty)
    (narrow : bound.unmasked = .primitive .float32) : ty.unmasked ≠ .primitive (.uint .w16) := by
  intro bare
  obtain ⟨leaf, member, found⟩ := exists_primitive_leaf rfl (by decide) typed bare
  exact bounds.safe narrow leaf member found

theorem type_least (typed : tree.type = .ok ty) (bounds : SafeBound tree.leaves bound) :
    Below ty bound := by
  induction tree generalizing ty with
  | leaf type =>
    cases typed
    exact bounds.above _ (List.mem_singleton_self _)
  | join left right ihLeft ihRight =>
    obtain ⟨leftType, rightType, leftTyped, rightTyped, joins⟩ := type_join_ok typed
    have leftBelow := ihLeft leftTyped bounds.left
    have rightBelow := ihRight rightTyped bounds.right
    rcases unify_least joins leftBelow rightBelow with below | ⟨narrow, bare | bare⟩
    · exact below
    · exact (bounds.left.not_overshot leftTyped narrow bare).elim
    · exact (bounds.right.not_overshot rightTyped narrow bare).elim

/-- A tree has a type when its leaves have a safe bound and no join among them is missing. -/
theorem typed_of_bound (bounds : SafeBound tree.leaves bound)
    (joinable : ¬ (.null ∈ tree.leaves ∧ .stringLiteral ∈ tree.leaves)) :
    ∃ ty, tree.type = .ok ty := by
  induction tree with
  | leaf type => exact ⟨type, rfl⟩
  | join left right ihLeft ihRight =>
    simp only [leaves, List.mem_append] at joinable
    obtain ⟨leftType, leftTyped⟩ := ihLeft bounds.left fun both =>
      joinable ⟨.inl both.1, .inl both.2⟩
    obtain ⟨rightType, rightTyped⟩ := ihRight bounds.right fun both =>
      joinable ⟨.inr both.1, .inr both.2⟩
    have apart : ¬ LacksJoin leftType rightType := by
      rintro (⟨rfl, rfl⟩ | ⟨rfl, rfl⟩)
      · exact joinable ⟨.inl (null_mem_leaves leftTyped), .inr (literal_mem_leaves rightTyped)⟩
      · exact joinable ⟨.inr (null_mem_leaves rightTyped), .inl (literal_mem_leaves leftTyped)⟩
    have leftBelow := type_least leftTyped bounds.left
    have rightBelow := type_least rightTyped bounds.right
    obtain ⟨joined, joins⟩ := unify_of_below leftBelow rightBelow apart
    refine ⟨joined, ?_⟩
    rw [type, leftTyped, rightTyped]
    exact joins

/-- The types are outside the two exceptional mixtures. -/
structure Compatible (types : List Ty) : Prop where
  numbers : ¬ ((∃ a ∈ types, a.unmasked = .primitive .float32) ∧
    ∃ b ∈ types, b.unmasked = .primitive (.uint .w16))
  texts : ¬ (.null ∈ types ∧ .stringLiteral ∈ types)

theorem Compatible.mono (compatible : Compatible types) (fewer : ∀ ty ∈ others, ty ∈ types) :
    Compatible others where
  numbers := by
    rintro ⟨⟨a, inA, isFloat⟩, b, inB, isUnsigned⟩
    exact compatible.numbers ⟨⟨a, fewer a inA, isFloat⟩, b, fewer b inB, isUnsigned⟩
  texts both := compatible.texts ⟨fewer _ both.1, fewer _ both.2⟩

/-- A `float32` that a tree yields is one of its leaves, so a tree of compatible leaves is a
safe bound of them. -/
theorem Compatible.safeBound (compatible : Compatible tree.leaves) (typed : tree.type = .ok ty) :
    SafeBound tree.leaves ty where
  above _ member := leaf_below typed member
  safe narrow other member isUnsigned :=
    have isLeaf := exists_primitive_leaf rfl (by decide) typed narrow
    compatible.numbers ⟨isLeaf, other, member, isUnsigned⟩

/-- A tree with the same compatible leaves as a typed one has the same type. -/
theorem type_of_leaves (compatible : Compatible first.leaves)
    (same : ∀ leaf, leaf ∈ first.leaves ↔ leaf ∈ second.leaves) (typed : first.type = .ok ty) :
    second.type = .ok ty := by
  have compatible' : Compatible second.leaves := compatible.mono fun leaf => (same leaf).mpr
  have bounds : SafeBound second.leaves ty :=
    (compatible.safeBound typed).mono fun leaf => (same leaf).mpr
  obtain ⟨other, typed'⟩ := typed_of_bound bounds compatible'.texts
  have bounds' : SafeBound first.leaves other :=
    (compatible'.safeBound typed').mono fun leaf => (same leaf).mp
  have equal : other = ty := (type_least typed' bounds).antisymm (type_least typed bounds')
  rw [typed', equal]

/-- Outside the exceptional mixtures the leaves decide whether a tree has a type, and which. -/
theorem type_matches (compatible : Compatible first.leaves)
    (same : ∀ leaf, leaf ∈ first.leaves ↔ leaf ∈ second.leaves) :
    Matches (· = ·) first.type second.type := by
  cases typed : first.type with
  | ok ty =>
    rw [type_of_leaves compatible same typed]
    exact rfl
  | error failure =>
    cases typed' : second.type with
    | ok ty =>
      have compatible' : Compatible second.leaves := compatible.mono fun leaf => (same leaf).mpr
      rw [type_of_leaves compatible' (fun leaf => (same leaf).symm) typed'] at typed
      cases typed
    | error failure' => trivial

-- Both mixtures are exceptions: the nesting decides which type there is, or whether there is one.
example :
    let short := leaf (.primitive (.int .w16))
    let unsigned := leaf (.primitive (.uint .w16))
    let float := leaf (.primitive .float32)
    (join (join short unsigned) float).type = .ok (.primitive .float64) ∧
      (join short (join unsigned float)).type = .ok (.primitive .float32) := by
  decide

example :
    (join (join (leaf .null) (leaf .stringLiteral)) (leaf .ownedString)).type =
        .error (.unsupportedValue "Literal[str]") ∧
      (join (leaf .null) (join (leaf .stringLiteral) (leaf .ownedString))).type =
        .ok .maskedString := by
  decide

end JoinTree

/-- Conditional branches inside one another, down to expressions that are taken as they are. -/
inductive Nesting where
  | leaf (e : Expr)
  | branch (cond : Expr) (thenPart elsePart : Nesting)

namespace Nesting

def toExpr : Nesting → Expr
  | .leaf e => e
  | .branch cond thenPart elsePart => .ifElse cond thenPart.toExpr elsePart.toExpr

def leaves : Nesting → List Expr
  | .leaf e => [e]
  | .branch _ thenPart elsePart => thenPart.leaves ++ elsePart.leaves

def conditions : Nesting → List Expr
  | .leaf _ => []
  | .branch cond thenPart elsePart => cond :: thenPart.conditions ++ elsePart.conditions

def joinTree (type : Expr → Ty) : Nesting → JoinTree
  | .leaf e => .leaf (type e)
  | .branch _ thenPart elsePart => .join (thenPart.joinTree type) (elsePart.joinTree type)

theorem leaves_joinTree (type : Expr → Ty) (nesting : Nesting) :
    (nesting.joinTree type).leaves = nesting.leaves.map type := by
  induction nesting with
  | leaf e => rfl
  | branch cond thenPart elsePart ihThen ihElse =>
    rw [joinTree, JoinTree.leaves, ihThen, ihElse, leaves, List.map_append]

end Nesting

/-- The expression is a truth value, masked or not. -/
def Expr.IsCondition (env : TypingEnv) (params : List Ty) (cond : Expr) : Prop :=
  cond.TypesAs env params .bool ∨ cond.TypesAs env params (.masked (.primitive .bool))

variable {settings : Settings} {params : List Ty}

/-- Once the condition is one, a join is what its branches have in common; they convert to it. -/
theorem typeOf_ifElse {cond : Expr} (isCondition : cond.IsCondition ⟨.numeric, settings⟩ params)
    (thenBranch elseBranch : Expr) :
    typeOf ⟨.numeric, settings⟩ params (.ifElse cond thenBranch elseBranch) = (do
      let thenType ← typeOf ⟨.numeric, settings⟩ params thenBranch
      let elseType ← typeOf ⟨.numeric, settings⟩ params elseBranch
      Ty.unify .numeric thenType elseType) := by
  have typed : ∃ type, typeOf ⟨.numeric, settings⟩ params cond = .ok type ∧
      type.unmasked = .bool := by
    rcases isCondition with bare | masked
    · exact ⟨_, Expr.typesAs_iff.mp bare, rfl⟩
    · exact ⟨_, Expr.typesAs_iff.mp masked, rfl⟩
  obtain ⟨condType, condTyped, truth⟩ := typed
  rw [typeOf_join, condTyped]
  simp only [resolve_truth, truth, if_true, bind, Except.bind]
  cases typeOf ⟨.numeric, settings⟩ params thenBranch with
  | error failure => rfl
  | ok thenType =>
    cases typeOf ⟨.numeric, settings⟩ params elseBranch with
    | error failure => rfl
    | ok elseType =>
      dsimp only
      cases joins : Ty.unify .numeric thenType elseType with
      | error failure => rfl
      | ok joined =>
        obtain ⟨thenWay, thenOk⟩ := unify_classify_left joins
        obtain ⟨elseWay, elseOk⟩ := unify_classify_right joins
        simp only [thenOk, elseOk]
        rfl

theorem Nesting.typeOf_toExpr {nesting : Nesting} {type : Expr → Ty}
    (conditions : ∀ cond ∈ nesting.conditions, cond.IsCondition ⟨.numeric, settings⟩ params)
    (typed : ∀ leaf ∈ nesting.leaves, leaf.TypesAs ⟨.numeric, settings⟩ params (type leaf)) :
    typeOf ⟨.numeric, settings⟩ params nesting.toExpr = (nesting.joinTree type).type := by
  induction nesting with
  | leaf e => exact Expr.typesAs_iff.mp (typed e (List.mem_singleton_self e))
  | branch cond thenPart elsePart ihThen ihElse =>
    simp only [Nesting.conditions, List.cons_append, List.mem_cons, List.mem_append] at conditions
    simp only [leaves, List.mem_append] at typed
    rw [toExpr, typeOf_ifElse (conditions cond (.inl rfl)), joinTree, JoinTree.type,
      ihThen (fun cond member => conditions cond (.inr (.inl member)))
        (fun leaf member => typed leaf (.inl member)),
      ihElse (fun cond member => conditions cond (.inr (.inr member)))
        (fun leaf member => typed leaf (.inr member))]

/-- Joins depend neither on order nor on nesting: two trees with the same compatible leaves
fail both or yield the same type, and so do nested branches with the same leaves, whatever
conditions choose between them. -/
theorem joins_order_independent :
    (∀ first second : JoinTree, first.leaves.Perm second.leaves →
      JoinTree.Compatible first.leaves → Matches (· = ·) first.type second.type) ∧
    ∀ (settings : Settings) (params : List Ty) (first second : Nesting) (type : Expr → Ty)
      (session session' : Session),
      (∀ cond ∈ first.conditions ++ second.conditions,
        cond.IsCondition ⟨.numeric, settings⟩ params) →
      (∀ leaf ∈ first.leaves, leaf.TypesAs ⟨.numeric, settings⟩ params (type leaf)) →
      first.leaves.Perm second.leaves → JoinTree.Compatible (first.leaves.map type) →
      Matches (fun answer answer' => answer.2 = answer'.2)
        (check ⟨.numeric, settings⟩ params first.toExpr session).1
        (check ⟨.numeric, settings⟩ params second.toExpr session').1 := by
  constructor
  · intro first second reordered compatible
    exact JoinTree.type_matches compatible fun leaf => reordered.mem_iff
  · intro settings params first second type session session' conditions typed reordered compatible
    have typed' : ∀ leaf ∈ second.leaves,
        leaf.TypesAs ⟨.numeric, settings⟩ params (type leaf) := by
      intro leaf member
      exact typed leaf (reordered.mem_iff.mpr member)
    have trees : Matches (· = ·) (first.joinTree type).type (second.joinTree type).type := by
      rw [← first.leaves_joinTree] at compatible
      refine JoinTree.type_matches compatible fun leaf => ?_
      rw [first.leaves_joinTree, second.leaves_joinTree]
      exact (reordered.map type).mem_iff
    rw [← Nesting.typeOf_toExpr (fun cond member => conditions cond (by simp [member])) typed,
      ← Nesting.typeOf_toExpr (fun cond member => conditions cond (by simp [member])) typed',
      ← check_type _ session, ← check_type _ session'] at trees
    exact Matches.map_iff.mp trees

/-- A view, `NA` and an owned string, chosen by a bare and by a masked condition. -/
def textsOrMissing : Nesting :=
  .branch (.param 0) (.leaf (.param 2)) (.branch (.param 1) (.leaf .na) (.leaf (.param 3)))

def textsOrMissingReordered : Nesting :=
  .branch (.param 1) (.branch (.param 1) (.leaf .na) (.leaf (.param 3))) (.leaf (.param 2))

def textsOrMissingParams : List Ty :=
  [.bool, .masked (.primitive .bool), .stringView, .ownedString]

def textsOrMissingType : Expr → Ty
  | .param 2 => .stringView
  | .param 3 => .ownedString
  | _ => .null

theorem textsOrMissing_order_independent :
    textsOrMissing.leaves.Perm textsOrMissingReordered.leaves ∧
      JoinTree.Compatible (textsOrMissing.leaves.map textsOrMissingType) ∧
      Matches (· = ·) (textsOrMissing.joinTree textsOrMissingType).type
        (textsOrMissingReordered.joinTree textsOrMissingType).type ∧
      (textsOrMissing.joinTree textsOrMissingType).type = .ok .maskedString ∧
      Matches (fun answer answer' => answer.2 = answer'.2)
        (check ⟨.numeric, {}⟩ textsOrMissingParams textsOrMissing.toExpr
          { context := .initial }).1
        (check ⟨.numeric, {}⟩ textsOrMissingParams textsOrMissingReordered.toExpr
          { context := .initial }).1 := by
  have reordered : textsOrMissing.leaves.Perm textsOrMissingReordered.leaves :=
    List.perm_append_comm
  have compatible : JoinTree.Compatible (textsOrMissing.leaves.map textsOrMissingType) :=
    ⟨by decide, by decide⟩
  have bare : (Expr.param 0).IsCondition ⟨.numeric, {}⟩ textsOrMissingParams :=
    .inl (Expr.typesAs_iff.mpr rfl)
  have masked : (Expr.param 1).IsCondition ⟨.numeric, {}⟩ textsOrMissingParams :=
    .inr (Expr.typesAs_iff.mpr rfl)
  have conditions : ∀ cond ∈ textsOrMissing.conditions ++ textsOrMissingReordered.conditions,
      cond.IsCondition ⟨.numeric, {}⟩ textsOrMissingParams := by
    simp [textsOrMissing, textsOrMissingReordered, Nesting.conditions, bare, masked]
  have typed : ∀ leaf ∈ textsOrMissing.leaves,
      leaf.TypesAs ⟨.numeric, {}⟩ textsOrMissingParams (textsOrMissingType leaf) := by
    simp only [textsOrMissing, Nesting.leaves, List.cons_append, List.nil_append,
      List.forall_mem_cons]
    exact ⟨Expr.typesAs_iff.mpr rfl, Expr.typesAs_iff.mpr rfl, Expr.typesAs_iff.mpr rfl, by simp⟩
  refine ⟨reordered, compatible, ?_, by decide, ?_⟩
  · exact joins_order_independent.1 _ _ (reordered.map textsOrMissingType) compatible
  · -- The nestings are forgotten, or elaboration would run the typing of both.
    generalize textsOrMissing = first, textsOrMissingReordered = second at *
    exact joins_order_independent.2 {} _ first second _ _ _ conditions typed reordered compatible

end RowTyping
