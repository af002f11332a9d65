import RowTyping.Proofs.Judgment

namespace RowTyping

/-- What comes next, unless there was a failure. -/
def unlessFailed (outcome : Except TypeError α) (nodes : List Expr) : List Expr :=
  match outcome with
  | .ok _ => nodes
  | .error _ => []

@[simp] theorem unlessFailed_ok (answer : α) (nodes : List Expr) :
    unlessFailed (.ok answer) nodes = nodes := rfl

@[simp] theorem unlessFailed_error (failure : TypeError) (nodes : List Expr) :
    unlessFailed (.error failure : Except TypeError α) nodes = [] := rfl

def truthOf (env : TypingEnv) (params : List Ty) (cond : Expr) : Except TypeError Signature := do
  let node ← nodeOf env params cond
  resolve env .truth [node.type]

/-- What a join answers once its condition was tested. -/
def branchesOf (env : TypingEnv) (params : List Ty) (thenBranch elseBranch : Expr) :
    Except TypeError Node := do
  let thenNode ← nodeOf env params thenBranch
  let elseNode ← nodeOf env params elseBranch
  let joined ← Ty.unify env.scalar thenNode.type elseNode.type
  let _ ← Conversion.classify env.scalar thenNode.type joined
  let _ ← Conversion.classify env.scalar elseNode.type joined
  return { type := joined }

theorem nodeOf_ifElse_eq (env : TypingEnv) (params : List Ty) (cond thenBranch elseBranch : Expr) :
    nodeOf env params (.ifElse cond thenBranch elseBranch) =
      truthOf env params cond >>= fun _ => branchesOf env params thenBranch elseBranch := by
  simp [nodeOf, truthOf, branchesOf]

def typedRoot (env : TypingEnv) (params : List Ty) (e : Expr) : List Expr :=
  unlessFailed (nodeOf env params e) [e]

mutual

/-- The nodes that are completed: the operands from the left as long as they are typed, the
branches of a join after the truth test of its condition, and then the root. -/
def completed (env : TypingEnv) (params : List Ty) : Expr → List Expr
  | .literal value => typedRoot env params (.literal value)
  | .param index => typedRoot env params (.param index)
  | .na => typedRoot env params .na
  | .masked value valid =>
    completed env params value ++
      unlessFailed (nodeOf env params value) (completed env params valid) ++
      typedRoot env params (.masked value valid)
  | .binary op left right =>
    completed env params left ++
      unlessFailed (nodeOf env params left) (completed env params right) ++
      typedRoot env params (.binary op left right)
  | .unary op operand => completed env params operand ++ typedRoot env params (.unary op operand)
  | .isNull left right =>
    completed env params left ++
      unlessFailed (nodeOf env params left) (completed env params right) ++
      typedRoot env params (.isNull left right)
  | .len operand => completed env params operand ++ typedRoot env params (.len operand)
  | .attr base name => completed env params base ++ typedRoot env params (.attr base name)
  | .call receiver name args =>
    completed env params receiver ++
      unlessFailed (nodeOf env params receiver) (completedAll env params args) ++
      typedRoot env params (.call receiver name args)
  | .ifElse cond thenBranch elseBranch =>
    completed env params cond ++
      unlessFailed (truthOf env params cond) (completed env params thenBranch ++
        unlessFailed (nodeOf env params thenBranch) (completed env params elseBranch)) ++
      typedRoot env params (.ifElse cond thenBranch elseBranch)

def completedAll (env : TypingEnv) (params : List Ty) : List Expr → List Expr
  | [] => []
  | e :: rest =>
    completed env params e ++ unlessFailed (nodeOf env params e) (completedAll env params rest)

end

variable {env : TypingEnv} {params : List Ty} {e : Expr} {node : Node} {failure : TypeError}
variable {nodes more plan morePlan : List Expr}

theorem typedRoot_of_nodeOf (typed : nodeOf env params e = .ok node) :
    typedRoot env params e = [e] := by
  rw [typedRoot, typed, unlessFailed_ok]

theorem typedRoot_of_error (failed : nodeOf env params e = .error failure) :
    typedRoot env params e = [] := by
  rw [typedRoot, failed, unlessFailed_error]

/-- A failure of a part is a failure of the root. -/
theorem typedRoot_of_failed {part : Except TypeError α} {next : α → Except TypeError Node}
    (failed : part = .error failure) (root : nodeOf env params e = part >>= next) :
    typedRoot env params e = [] := by
  rw [typedRoot, root, failed]
  rfl

theorem rest_of_failed {part : Except TypeError α} {next : α → Except TypeError Node}
    (failed : part = .error failure) (root : nodeOf env params e = part >>= next) :
    unlessFailed part nodes ++ typedRoot env params e = [] := by
  rw [typedRoot_of_failed failed root, failed, unlessFailed_error, List.append_nil]

/-- Of the planned nodes the first ones are completed, and all of them in a success. -/
structure Progress (outcome : Except TypeError α) (nodes plan : List Expr) : Prop where
  begins : nodes <+: plan
  whole : ∀ answer, outcome = .ok answer → nodes = plan

theorem Progress.root (env : TypingEnv) (params : List Ty) (e : Expr) :
    Progress (nodeOf env params e) (typedRoot env params e) [e] := by
  cases typed : nodeOf env params e with
  | error failure =>
    rw [typedRoot_of_error typed]
    exact ⟨List.nil_prefix, by simp⟩
  | ok node =>
    rw [typedRoot_of_nodeOf typed]
    exact ⟨List.prefix_refl _, by simp⟩

/-- A failure of the first part is a failure of the whole, and nothing more is completed. -/
theorem Progress.append {part : Except TypeError α} {outcome : Except TypeError β}
    (first : Progress part nodes plan)
    (rest : ∀ answer, part = .ok answer → Progress outcome more morePlan)
    (stops : ∀ failure, part = .error failure → outcome = .error failure)
    (ends : ∀ failure, part = .error failure → more = []) :
    Progress outcome (nodes ++ more) (plan ++ morePlan) := by
  cases ran : part with
  | error failure =>
    rw [ends failure ran, stops failure ran, List.append_nil]
    exact ⟨first.begins.trans (List.prefix_append plan morePlan), by simp⟩
  | ok answer =>
    have later := rest answer ran
    rw [first.whole answer ran]
    refine ⟨(List.prefix_append_right_inj plan).mpr later.begins, fun final success => ?_⟩
    rw [later.whole final success]

/-- The second part is begun once the first one has succeeded. -/
theorem Progress.pair {left : Except TypeError α} {right : Except TypeError β}
    {next : α → β → Except TypeError γ} (first : Progress left nodes plan)
    (second : Progress right more morePlan) :
    Progress (left >>= fun x => right >>= next x) (nodes ++ unlessFailed left more)
      (plan ++ morePlan) := by
  refine first.append (fun x typed => ?_) (fun failure failed => ?_) (fun failure failed => ?_)
  · rw [typed, unlessFailed_ok]
    refine ⟨second.begins, fun answer success => ?_⟩
    obtain ⟨_, _, success⟩ := bind_eq_ok_iff.mp success
    obtain ⟨y, rightOk, _⟩ := bind_eq_ok_iff.mp success
    exact second.whole y rightOk
  · rw [failed]
    rfl
  · rw [failed, unlessFailed_error]

private theorem progress_one {part : Except TypeError α} {next : α → Except TypeError Node}
    (operands : Progress part nodes plan) (root : nodeOf env params e = part >>= next) :
    Progress (nodeOf env params e) (nodes ++ typedRoot env params e) (plan ++ [e]) := by
  have stops (failure : TypeError) (failed : part = .error failure) :
      nodeOf env params e = .error failure := by
    rw [root, failed]
    rfl
  exact operands.append (fun _ _ => .root env params e) stops
    fun _ failed => typedRoot_of_failed failed root

private theorem progress_two {left : Except TypeError α} {right : Except TypeError β}
    {next : α → β → Except TypeError Node} (first : Progress left nodes plan)
    (second : Progress right more morePlan)
    (root : nodeOf env params e = left >>= fun x => right >>= next x) :
    Progress (nodeOf env params e) (nodes ++ unlessFailed left more ++ typedRoot env params e)
      (plan ++ morePlan ++ [e]) := by
  have operands : Progress (left >>= fun x => right >>= fun y => pure (x, y))
      (nodes ++ unlessFailed left more) (plan ++ morePlan) := first.pair second
  have paired : nodeOf env params e =
      (left >>= fun x => right >>= fun y => pure (x, y)) >>= fun (x, y) => next x y := by
    simp [root]
  exact progress_one operands paired

private theorem completedAll_progress {args : List Expr}
    (each : ∀ arg ∈ args,
      Progress (nodeOf env params arg) (completed env params arg) arg.postorder) :
    Progress (argTypesOf env params args) (completedAll env params args)
      (Expr.postorderAll args) := by
  induction args with
  | nil => exact ⟨List.prefix_refl _, fun _ _ => rfl⟩
  | cons arg rest ih =>
    rw [completedAll, Expr.postorderAll, argTypesOf]
    refine (each arg List.mem_cons_self).pair ?_
    exact ih fun other member => each other (List.mem_cons_of_mem arg member)

/-- The nodes are completed in order, and all of them where the expression is typed. -/
theorem completed_progress (env : TypingEnv) (params : List Ty) (e : Expr) :
    Progress (nodeOf env params e) (completed env params e) e.postorder := by
  induction e with
  | literal value => exact .root env params _
  | param index => exact .root env params _
  | na => exact .root env params _
  | masked value valid ihValue ihValid => exact progress_two ihValue ihValid (by rw [nodeOf])
  | binary op left right ihLeft ihRight => exact progress_two ihLeft ihRight (by rw [nodeOf])
  | unary op operand ih => exact progress_one ih (by rw [nodeOf])
  | isNull left right ihLeft ihRight => exact progress_two ihLeft ihRight (by rw [nodeOf])
  | len operand ih => exact progress_one ih (by rw [nodeOf])
  | attr base name ih => exact progress_one ih (by rw [nodeOf])
  | call receiver name args ihReceiver ihArgs =>
    exact progress_two ihReceiver (completedAll_progress ihArgs) (by rw [nodeOf])
  | ifElse cond thenBranch elseBranch ihCond ihThen ihElse =>
    have tested : Progress (truthOf env params cond) (completed env params cond)
        cond.postorder := by
      refine ⟨ihCond.begins, fun signature isTruth => ?_⟩
      obtain ⟨node, typed, _⟩ := bind_eq_ok_iff.mp isTruth
      exact ihCond.whole node typed
    have joined : Progress (branchesOf env params thenBranch elseBranch) _ _ := ihThen.pair ihElse
    have root : nodeOf env params (.ifElse cond thenBranch elseBranch) =
        truthOf env params cond >>= fun _ =>
          branchesOf env params thenBranch elseBranch >>= pure := by
      simp [nodeOf_ifElse_eq]
    rw [completed, Expr.postorder, List.append_assoc cond.postorder]
    exact progress_two tested joined root

theorem completed_of_nodeOf (typed : nodeOf env params e = .ok node) :
    completed env params e = e.postorder :=
  (completed_progress env params e).whole node typed

-- A text is no truth value, so the branches are never begun.
example (env : TypingEnv) :
    completed env [.stringView] (.ifElse (.param 0) (.literal (.bool true)) .na) = [.param 0] := rfl

end RowTyping
