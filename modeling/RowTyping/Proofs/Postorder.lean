import RowTyping.Expr

namespace RowTyping.Expr

/-- Induction over expressions, with a hypothesis for each argument of a call. -/
@[induction_eliminator]
theorem induct {motive : Expr → Prop}
    (literal : ∀ value, motive (.literal value))
    (param : ∀ index, motive (.param index))
    (na : motive .na)
    (masked : ∀ value valid, motive value → motive valid → motive (.masked value valid))
    (binary : ∀ op left right, motive left → motive right → motive (.binary op left right))
    (unary : ∀ op operand, motive operand → motive (.unary op operand))
    (isNull : ∀ left right, motive left → motive right → motive (.isNull left right))
    (len : ∀ operand, motive operand → motive (.len operand))
    (attr : ∀ base name, motive base → motive (.attr base name))
    (call : ∀ receiver method args, motive receiver → (∀ arg ∈ args, motive arg) →
      motive (.call receiver method args))
    (ifElse : ∀ cond thenBranch elseBranch, motive cond → motive thenBranch →
      motive elseBranch → motive (.ifElse cond thenBranch elseBranch))
    (e : Expr) : motive e :=
  @Expr.rec motive (fun args => ∀ arg ∈ args, motive arg) literal param na masked binary unary
    isNull len attr call ifElse (by simp) (fun _ _ first rest => by simpa using ⟨first, rest⟩) e

/-- The operands of a node, from the left. -/
def children : Expr → List Expr
  | .literal _ | .param _ | .na => []
  | .masked value valid => [value, valid]
  | .binary _ left right | .isNull left right => [left, right]
  | .unary _ operand | .len operand => [operand]
  | .attr base _ => [base]
  | .call receiver _ args => receiver :: args
  | .ifElse cond thenBranch elseBranch => [cond, thenBranch, elseBranch]

theorem induct_children {motive : Expr → Prop}
    (step : ∀ e, (∀ child ∈ e.children, motive child) → motive e) (e : Expr) : motive e := by
  induction e with
  | _ => exact step _ (by simp_all [children])

mutual

/-- Every subexpression in order of completion; a node's number is its position. -/
def postorder : Expr → List Expr
  | .literal value => [.literal value]
  | .param index => [.param index]
  | .na => [.na]
  | .masked value valid => value.postorder ++ valid.postorder ++ [.masked value valid]
  | .binary op left right => left.postorder ++ right.postorder ++ [.binary op left right]
  | .unary op operand => operand.postorder ++ [.unary op operand]
  | .isNull left right => left.postorder ++ right.postorder ++ [.isNull left right]
  | .len operand => operand.postorder ++ [.len operand]
  | .attr base name => base.postorder ++ [.attr base name]
  | .call receiver method args =>
    receiver.postorder ++ postorderAll args ++ [.call receiver method args]
  | .ifElse cond thenBranch elseBranch =>
    cond.postorder ++ thenBranch.postorder ++ elseBranch.postorder ++
      [.ifElse cond thenBranch elseBranch]

/-- The subexpressions of several expressions, one expression after the other. -/
def postorderAll : List Expr → List Expr
  | [] => []
  | e :: rest => e.postorder ++ postorderAll rest

end

def size (e : Expr) : Nat := e.postorder.length

theorem postorder_eq (e : Expr) : e.postorder = postorderAll e.children ++ [e] := by
  cases e <;> simp [postorder, postorderAll, children]

theorem size_pos (e : Expr) : 0 < e.size := by
  simp [size, postorder_eq e]

theorem postorderAll_append (front rest : List Expr) :
    postorderAll (front ++ rest) = postorderAll front ++ postorderAll rest := by
  induction front with
  | nil => rfl
  | cons e front ih => simp [postorderAll, ih]

private theorem mem_postorderAll (member : child ∈ es) (inside : sub ∈ child.postorder) :
    sub ∈ postorderAll es := by
  induction es with
  | nil => cases member
  | cons first rest ih =>
    rw [postorderAll, List.mem_append]
    rcases List.mem_cons.mp member with rfl | later
    · exact .inl inside
    · exact .inr (ih later)

theorem mem_postorder_of_child {e child sub : Expr} (member : child ∈ e.children)
    (inside : sub ∈ child.postorder) : sub ∈ e.postorder := by
  rw [postorder_eq, List.mem_append]
  exact .inl (mem_postorderAll member inside)

/-- The nodes of the expression that ends at position `index` of `nodes` stand there together. -/
def EndsBlock (nodes : List Expr) (index : Nat) (sub : Expr) : Prop :=
  ∃ before after, nodes = before ++ sub.postorder ++ after ∧ before.length + sub.size = index + 1

private theorem EndsBlock.append_right (block : EndsBlock nodes index sub) (rest : List Expr) :
    EndsBlock (nodes ++ rest) index sub := by
  obtain ⟨before, after, same, position⟩ := block
  exact ⟨before, after ++ rest, by simp [same], position⟩

private theorem EndsBlock.append_left (block : EndsBlock nodes index sub) (front : List Expr) :
    EndsBlock (front ++ nodes) (front.length + index) sub := by
  obtain ⟨before, after, same, position⟩ := block
  exact ⟨front ++ before, after, by simp [same], by simp; omega⟩

private theorem endsBlock_all {es : List Expr}
    (each : ∀ e ∈ es, ∀ index, e.postorder[index]? = some sub → EndsBlock e.postorder index sub)
    (found : (postorderAll es)[index]? = some sub) : EndsBlock (postorderAll es) index sub := by
  induction es generalizing index with
  | nil => simp [postorderAll] at found
  | cons e rest ih =>
    rw [postorderAll] at found ⊢
    by_cases inside : index < e.postorder.length
    · rw [List.getElem?_append_left inside] at found
      exact (each e (by simp) index found).append_right _
    · have later : e.postorder.length ≤ index := Nat.le_of_not_lt inside
      rw [List.getElem?_append_right later] at found
      have block := ih (fun other member => each other (by simp [member])) found
      have shifted := block.append_left e.postorder
      rwa [Nat.add_sub_of_le later] at shifted

/-- The nodes of a subexpression are consecutive and end at its root. -/
theorem postorder_block (e : Expr) (found : e.postorder[index]? = some sub) :
    EndsBlock e.postorder index sub := by
  induction e using induct_children generalizing index with
  | step e ih =>
    have split := postorder_eq e
    by_cases inside : index < (postorderAll e.children).length
    · rw [split, List.getElem?_append_left inside] at found
      have block := endsBlock_all (fun child member index => ih child member) found
      rw [split]
      exact block.append_right _
    · rw [split, List.getElem?_append_right (Nat.le_of_not_lt inside)] at found
      obtain ⟨bound, same⟩ := List.getElem?_eq_some_iff.mp found
      have last : index = (postorderAll e.children).length := by
        simp only [List.length_singleton] at bound
        omega
      have root : sub = e := by simpa using same.symm
      refine ⟨[], [], by simp [root], ?_⟩
      simp [root, size, split, last]

private theorem postorderAll_block {es : List Expr} (found : (postorderAll es)[index]? = some sub) :
    EndsBlock (postorderAll es) index sub :=
  endsBlock_all (fun e _ _ found => postorder_block e found) found

theorem EndsBlock.size_le (block : EndsBlock nodes index sub) : sub.size ≤ index + 1 := by
  obtain ⟨before, after, same, position⟩ := block
  omega

/-- An operand of the node with number `consumer`: the expression `child`, whose root has the
number `operand`. Between the two roots stand the nodes of the later operands. -/
def OperandAt (e : Expr) (consumer operand : Nat) (child : Expr) : Prop :=
  ∃ parent front rest, e.postorder[consumer]? = some parent ∧
    parent.children = front ++ child :: rest ∧
    operand + (postorderAll rest).length + 1 = consumer

/-- The nodes around an operand, from the first node to the consumer. -/
private theorem OperandAt.layout {e : Expr} (place : e.OperandAt consumer operand child) :
    ∃ before rest parent after,
      e.postorder = before ++ child.postorder ++ (postorderAll rest ++ parent :: after) ∧
      before.length + child.size = operand + 1 ∧
      operand + (postorderAll rest).length + 1 = consumer := by
  obtain ⟨parent, front, rest, found, operands, position⟩ := place
  obtain ⟨before, after, same, ends⟩ := postorder_block e found
  have inner : parent.postorder =
      postorderAll front ++ child.postorder ++ (postorderAll rest ++ [parent]) := by
    rw [postorder_eq parent, operands, postorderAll_append]
    simp [postorderAll]
  refine ⟨before ++ postorderAll front, rest, parent, after, by simp [same, inner], ?_, position⟩
  have total := congrArg List.length inner
  simp only [size, List.length_append, List.length_cons, List.length_nil] at total ends ⊢
  omega

theorem OperandAt.root {e : Expr} (place : e.OperandAt consumer operand child) :
    e.postorder[operand]? = some child := by
  obtain ⟨before, rest, parent, after, same, ends, _⟩ := place.layout
  have split := postorder_eq child
  have position : operand = (before ++ postorderAll child.children).length := by
    simp only [size, split, List.length_append, List.length_cons, List.length_nil] at ends ⊢
    omega
  have layout : e.postorder =
      (before ++ postorderAll child.children) ++
        child :: (postorderAll rest ++ parent :: after) := by
    simp [same, split]
  rw [layout, position, List.getElem?_append_right (Nat.le_refl _)]
  simp

/-- A node between an operand and its consumer belongs to a later operand, so its own nodes
start after the operand. -/
private theorem OperandAt.later_block {e : Expr} (place : e.OperandAt consumer operand child)
    (found : e.postorder[index]? = some sub) (above : operand < index)
    (below : index < consumer) : sub.size + operand ≤ index := by
  obtain ⟨before, rest, parent, after, same, ends, position⟩ := place.layout
  have start : (before ++ child.postorder).length = operand + 1 := by
    simpa [size] using ends
  have inside : index - (operand + 1) < (postorderAll rest).length := by omega
  rw [same, List.getElem?_append_right (by omega), start,
    List.getElem?_append_left inside] at found
  have bound := (postorderAll_block found).size_le
  omega

private theorem OperandAt.in_block {e : Expr} (place : e.OperandAt consumer operand child)
    (found : e.postorder[consumer]? = some parent) : consumer < operand + parent.size := by
  obtain ⟨actual, front, rest, foundActual, operands, position⟩ := place
  have same : actual = parent := Option.some.inj (foundActual.symm.trans found)
  subst actual
  have positive := child.size_pos
  rw [size, postorder_eq parent, operands, postorderAll_append]
  simp only [size, postorderAll, List.length_append, List.length_cons, List.length_nil] at *
  omega

/-- No node is an operand of two nodes. -/
theorem OperandAt.consumer_unique {e : Expr} (first : e.OperandAt consumer operand child)
    (second : e.OperandAt other operand sibling) : consumer = other := by
  -- A consumer below the other one would have a block that starts before the operand.
  have never {early late : Nat} {x y : Expr} (inner : e.OperandAt early operand x)
      (outer : e.OperandAt late operand y) : ¬ early < late := by
    intro below
    obtain ⟨parent, front, rest, found, operands, position⟩ := inner
    have spans := OperandAt.in_block ⟨parent, front, rest, found, operands, position⟩ found
    have starts := outer.later_block found (by omega) below
    omega
  have notBelow := never first second
  have notAbove := never second first
  omega

end RowTyping.Expr
