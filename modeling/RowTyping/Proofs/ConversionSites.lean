import RowTyping.Proofs.Conversion
import RowTyping.Proofs.Elaboration
import RowTyping.Scalar.Promotion

namespace RowTyping

variable {env : TypingEnv} {params : List Ty}
variable {body e cond thenBranch elseBranch value valid : Expr} {consumer other operand : Nat}

/-- The node `consumer` is a join of which `operand` is a branch, or it masks the value
`operand`. -/
def Expr.Converts (body : Expr) (consumer operand : NodeId) : Prop :=
  ∃ e, body.postorder[consumer]? = some e ∧
    operand ∈ e.branchRoots consumer ++ e.valueRoots consumer

/-- The operands that a node may convert: the branches of a join, or the value under a mask. -/
def Expr.converted : Expr → List Expr
  | .ifElse _ thenBranch elseBranch => [thenBranch, elseBranch]
  | .masked value _ => [value]
  | _ => []

private theorem Expr.operandAt_then
    (found : body.postorder[consumer]? = some (.ifElse cond thenBranch elseBranch)) :
    body.OperandAt consumer (consumer - (elseBranch.size + 1)) thenBranch := by
  have bound := (postorder_block body found).size_le
  have positive := cond.size_pos
  refine ⟨_, [cond], [elseBranch], found, rfl, ?_⟩
  simp only [size, postorder, postorderAll, List.length_append, List.length_cons,
    List.length_nil] at *
  omega

private theorem Expr.operandAt_else
    (found : body.postorder[consumer]? = some (.ifElse cond thenBranch elseBranch)) :
    body.OperandAt consumer (consumer - 1) elseBranch := by
  have bound := (postorder_block body found).size_le
  have positive := cond.size_pos
  refine ⟨_, [cond, thenBranch], [], found, rfl, ?_⟩
  simp only [size, postorder, postorderAll, List.length_append, List.length_cons,
    List.length_nil] at *
  omega

private theorem Expr.operandAt_value
    (found : body.postorder[consumer]? = some (.masked value valid)) :
    body.OperandAt consumer (consumer - (valid.size + 1)) value := by
  have bound := (postorder_block body found).size_le
  have positive := value.size_pos
  refine ⟨_, [], [valid], found, rfl, ?_⟩
  simp only [size, postorder, postorderAll, List.length_append, List.length_cons,
    List.length_nil] at *
  omega

/-- The roots are the numbers of the operands that a node may convert. -/
theorem Expr.converted_roots (found : body.postorder[consumer]? = some e) :
    (e.branchRoots consumer ++ e.valueRoots consumer).map (body.postorder[·]?) =
      e.converted.map some := by
  cases e with
  | ifElse cond thenBranch elseBranch =>
    have first := (operandAt_then found).root
    have second := (operandAt_else found).root
    simp [branchRoots, valueRoots, converted, first, second]
  | masked value valid =>
    have root := (operandAt_value found).root
    simp [branchRoots, valueRoots, converted, root]
  | _ => rfl

theorem Expr.Converts.operandAt (converts : body.Converts consumer operand) :
    ∃ child, body.OperandAt consumer operand child := by
  obtain ⟨e, found, member⟩ := converts
  cases e with
  | ifElse cond thenBranch elseBranch =>
    rcases (by simpa [branchRoots, valueRoots] using member :
      operand = consumer - (elseBranch.size + 1) ∨ operand = consumer - 1) with same | same
    · exact ⟨thenBranch, same ▸ operandAt_then found⟩
    · exact ⟨elseBranch, same ▸ operandAt_else found⟩
  | masked value valid =>
    have same : operand = consumer - (valid.size + 1) := by
      simpa [branchRoots, valueRoots] using member
    exact ⟨value, same ▸ operandAt_value found⟩
  | _ => simp [branchRoots, valueRoots] at member

/-- The two branches of a join have different roots, the first one's before the second's. -/
theorem Expr.then_lt_else
    (found : body.postorder[consumer]? = some (.ifElse cond thenBranch elseBranch)) :
    consumer - (elseBranch.size + 1) < consumer - 1 := by
  have bound := (postorder_block body found).size_le
  have positive := elseBranch.size_pos
  have positiveThen := thenBranch.size_pos
  simp only [size, postorder, List.length_append, List.length_cons, List.length_nil] at *
  omega

theorem Expr.Converts.consumer_unique (first : body.Converts consumer operand)
    (second : body.Converts other operand) : consumer = other := by
  obtain ⟨child, place⟩ := first.operandAt
  obtain ⟨sibling, otherPlace⟩ := second.operandAt
  exact place.consumer_unique otherPlace

private theorem node_of_mem_branchSites (member : site ∈ branchSites scalar node branch joined) :
    site.node = node := by
  unfold branchSites at member
  split at member
  · split at member
    · simp at member
    · rw [List.mem_singleton] at member
      rw [member]
  · simp at member

/-- A node converts its own operands only, the then-branch before the else-branch. -/
theorem sitesAt_roots (env : TypingEnv) (params : List Ty) (consumer : NodeId) (e : Expr) :
    ((sitesAt env params consumer e).map (·.node)).Sublist
      (e.branchRoots consumer ++ e.valueRoots consumer) := by
  have branch (node : NodeId) (source target : Ty) :
      ((branchSites env.scalar node source target).map (·.node)).Sublist [node] := by
    unfold branchSites
    split
    · split <;> simp
    · simp
  cases e with
  | masked value valid =>
    simp only [sitesAt, Expr.branchRoots, Expr.valueRoots]
    split <;> simp
  | ifElse cond thenBranch elseBranch =>
    simp only [sitesAt, Expr.branchRoots, Expr.valueRoots, List.append_nil]
    split
    · rw [List.map_append]
      exact (branch _ _ _).append (branch _ _ _)
    · simp
  | _ => simp [sitesAt]

theorem mem_sitesFrom_iff {start : Nat} :
    site ∈ sitesFrom env params start nodes ↔
      ∃ (index : Nat) (e : Expr), nodes[index]? = some e ∧
        site ∈ sitesAt env params (start + index) e := by
  simp only [sitesFrom, List.mem_flatMap]
  constructor
  · rintro ⟨⟨e, consumer⟩, found, member⟩
    obtain ⟨after, found⟩ := List.mk_mem_zipIdx_iff_le_and_getElem?_sub.mp found
    exact ⟨consumer - start, e, found, by rwa [Nat.add_sub_of_le after]⟩
  · rintro ⟨index, e, found, member⟩
    refine ⟨(e, start + index), List.mk_mem_zipIdx_iff_le_and_getElem?_sub.mpr ?_, member⟩
    exact ⟨Nat.le_add_right _ _, by simpa using found⟩

private theorem converts_of_mem_sitesAt (found : body.postorder[consumer]? = some e)
    (member : site ∈ sitesAt env params consumer e) : body.Converts consumer site.node :=
  ⟨e, found, (sitesAt_roots env params consumer e).subset (List.mem_map.mpr ⟨site, member, rfl⟩)⟩

/-- All the conversions of an operand are asked for by its one consumer. -/
theorem sitesFrom_filter (env : TypingEnv) (params : List Ty)
    (found : body.postorder[consumer]? = some e) (converts : body.Converts consumer operand) :
    (sitesFrom env params 0 body.postorder).filter (·.node = operand) =
      (sitesAt env params consumer e).filter (·.node = operand) := by
  obtain ⟨bound, same⟩ := List.getElem?_eq_some_iff.mp found
  have split : body.postorder =
      body.postorder.take consumer ++ ([e] ++ body.postorder.drop (consumer + 1)) := by
    rw [← same]
    simp
  have length : (body.postorder.take consumer).length = consumer := by simp; omega
  have foreign (index : Nat) (sub : Expr) (different : index ≠ consumer)
      (present : body.postorder[index]? = some sub) (site : Site)
      (member : site ∈ sitesAt env params index sub) : site.node ≠ operand := by
    intro onOperand
    have converted := converts_of_mem_sitesAt present member
    rw [onOperand] at converted
    exact different (converted.consumer_unique converts)
  have before : (sitesFrom env params 0 (body.postorder.take consumer)).filter
      (·.node = operand) = [] := by
    refine List.filter_eq_nil_iff.mpr fun site member => ?_
    obtain ⟨index, sub, present, member⟩ := mem_sitesFrom_iff.mp member
    have below : index < consumer := by
      have := (List.getElem?_eq_some_iff.mp present).1
      omega
    rw [List.getElem?_take_of_lt below] at present
    simpa using foreign (0 + index) sub (by omega) (by simpa using present) site member
  have after : (sitesFrom env params (consumer + 1)
      (body.postorder.drop (consumer + 1))).filter (·.node = operand) = [] := by
    refine List.filter_eq_nil_iff.mpr fun site member => ?_
    obtain ⟨index, sub, present, member⟩ := mem_sitesFrom_iff.mp member
    rw [List.getElem?_drop] at present
    simpa using foreign _ sub (by omega) present site member
  rw [split, sitesFrom_append, sitesFrom_append, length, Nat.zero_add, sitesFrom_singleton]
  simp only [List.filter_append, before, List.length_singleton, after, List.nil_append,
    List.append_nil]

private theorem filter_branchSites (scalar : ScalarTyping) (node operand : NodeId)
    (branch joined : Ty) :
    (branchSites scalar node branch joined).filter (·.node = operand) =
      if node = operand then branchSites scalar node branch joined else [] := by
  split
  · rename_i same
    refine List.filter_eq_self.mpr fun site member => ?_
    simpa [same] using node_of_mem_branchSites member
  · rename_i different
    refine List.filter_eq_nil_iff.mpr fun site member => ?_
    simpa [node_of_mem_branchSites member] using different

private theorem sitesFrom_filter_branch (found : body.postorder[consumer]? = some e)
    (member : operand ∈ e.branchRoots consumer) (joined : nodeOf env params e = .ok joinedNode) :
    ∃ branch node, body.postorder[operand]? = some branch ∧ nodeOf env params branch = .ok node ∧
      (∃ way, Conversion.classify env.scalar node.type joinedNode.type = .ok way) ∧
      (sitesFrom env params 0 body.postorder).filter (·.node = operand) =
        branchSites env.scalar operand node.type joinedNode.type := by
  have filtered := sitesFrom_filter env params found
    ⟨e, found, List.mem_append_left _ member⟩
  cases e with
  | ifElse cond thenBranch elseBranch =>
    obtain ⟨_, thenNode, elseNode, _, _, thenTyped, elseTyped, _, thenWay, elseWay, _⟩ :=
      nodeOf_ifElse_ok joined
    have order := Expr.then_lt_else found
    simp only [sitesAt, typeOf_of_nodeOf thenTyped, typeOf_of_nodeOf elseTyped,
      typeOf_of_nodeOf joined, List.filter_append, filter_branchSites] at filtered
    rcases (by simpa [Expr.branchRoots] using member :
      operand = consumer - (elseBranch.size + 1) ∨ operand = consumer - 1) with same | same
    · have different : consumer - 1 ≠ operand := by omega
      refine ⟨thenBranch, thenNode, same ▸ (Expr.operandAt_then found).root, thenTyped,
        thenWay, ?_⟩
      rw [filtered, if_pos same.symm, if_neg different, List.append_nil, same]
    · have different : consumer - (elseBranch.size + 1) ≠ operand := by omega
      refine ⟨elseBranch, elseNode, same ▸ (Expr.operandAt_else found).root, elseTyped,
        elseWay, ?_⟩
      rw [filtered, if_neg different, if_pos same.symm, List.nil_append, same]
  | _ => simp [Expr.branchRoots] at member

/-- A masked value is asked for a copy when it is a view, and for nothing otherwise. -/
theorem sitesFrom_filter_value (found : body.postorder[consumer]? = some e)
    (member : operand ∈ e.valueRoots consumer) :
    ∃ value, body.postorder[operand]? = some value ∧
      (typeOf env params value = .ok .stringView →
        (sitesFrom env params 0 body.postorder).filter (·.node = operand) =
          [⟨operand, .stringView, .ownedString, .materialize⟩]) ∧
      (typeOf env params value ≠ .ok .stringView →
        (sitesFrom env params 0 body.postorder).filter (·.node = operand) = []) := by
  have filtered := sitesFrom_filter env params found
    ⟨e, found, List.mem_append_right _ member⟩
  cases e with
  | masked value valid =>
    have same : operand = consumer - (valid.size + 1) := by
      simpa [Expr.valueRoots] using member
    refine ⟨value, same ▸ (Expr.operandAt_value found).root, ?_, ?_⟩
    · intro view
      rw [filtered, sitesAt, view]
      simp [same]
    · intro other
      rw [filtered, sitesAt]
      split
      · contradiction
      · rfl
  | _ => simp [Expr.valueRoots] at member

/-- The conversion of the first operand comes before that of the second: its consumer is
finished earlier, or both are branches of one join, the first of them taken when the
condition holds. -/
def Expr.ConvertsBefore (body : Expr) (first second : NodeId) : Prop :=
  ∀ consumer other, body.Converts consumer first → body.Converts other second →
    consumer < other ∨ (consumer = other ∧
      ∃ e, body.postorder[consumer]? = some e ∧ e.branchRoots consumer = [first, second])

private theorem roots_ordered (found : body.postorder[consumer]? = some e) :
    (e.branchRoots consumer ++ e.valueRoots consumer).Pairwise body.ConvertsBefore := by
  cases e with
  | ifElse cond thenBranch elseBranch =>
    have owner {operand : NodeId}
        (member : operand ∈ (Expr.ifElse cond thenBranch elseBranch).branchRoots consumer) :
        body.Converts consumer operand := ⟨_, found, List.mem_append_left _ member⟩
    refine List.pairwise_pair.mpr fun first second convertsFirst convertsSecond => .inr ?_
    have sameFirst := convertsFirst.consumer_unique (owner (by simp [Expr.branchRoots]))
    have sameSecond := convertsSecond.consumer_unique (owner (by simp [Expr.branchRoots]))
    subst sameFirst sameSecond
    exact ⟨rfl, _, found, rfl⟩
  | masked value valid => exact List.pairwise_singleton _ _
  | _ => exact List.Pairwise.nil

/-- Conversions are asked for in the order of their consumers. -/
theorem sitesFrom_ordered (env : TypingEnv) (params : List Ty) (body : Expr) :
    ((sitesFrom env params 0 body.postorder).map (·.node)).Pairwise body.ConvertsBefore := by
  rw [List.pairwise_map, sitesFrom, List.pairwise_flatMap]
  have increasing : body.postorder.zipIdx.Pairwise (fun first second => first.2 < second.2) := by
    rw [← List.pairwise_map, List.zipIdx_map_snd]
    exact List.pairwise_lt_range'
  constructor
  · rintro ⟨e, consumer⟩ member
    have found := List.mem_zipIdx_iff_getElem?.mp member
    rw [← List.pairwise_map]
    exact (roots_ordered found).sublist (sitesAt_roots env params consumer e)
  · refine increasing.imp_of_mem ?_
    rintro ⟨e, consumer⟩ ⟨sub, other⟩ member otherMember below site asked next nextAsked
    have converts := converts_of_mem_sitesAt (List.mem_zipIdx_iff_getElem?.mp member) asked
    have convertsNext :=
      converts_of_mem_sitesAt (List.mem_zipIdx_iff_getElem?.mp otherMember) nextAsked
    intro first second convertsFirst convertsSecond
    rw [convertsFirst.consumer_unique converts, convertsSecond.consumer_unique convertsNext]
    exact .inl below

def TypedFunction.nodeType? (function : TypedFunction) (node : NodeId) : Option TypeId :=
  function.nodeTypes[node]?

def TypedFunction.sitesOn (function : TypedFunction) (node : NodeId) : List ConversionSite :=
  function.conversions.filter (·.node = node)

/-- A typed function has the conversions that its body needs and no others. -/
structure TypedFunction.ConvertsExactly (scalar : ScalarTyping) (ctx : Context) (body : Expr)
    (function : TypedFunction) : Prop where
  /-- Branches and masked values are found at their numbers. -/
  roots : ∀ {consumer : NodeId} {e : Expr}, body.postorder[consumer]? = some e →
    (e.branchRoots consumer ++ e.valueRoots consumer).map (body.postorder[·]?) =
      e.converted.map some
  /-- A branch is converted, once, exactly when its type is not the joined type. -/
  branch : ∀ {consumer : NodeId} {e : Expr}, body.postorder[consumer]? = some e →
    ∀ branch ∈ e.branchRoots consumer, ∃ source target sourceType targetType,
      function.nodeType? branch = some source ∧ function.nodeType? consumer = some target ∧
      ctx.get? source = some sourceType ∧ ctx.get? target = some targetType ∧
      (source = target → function.sitesOn branch = []) ∧
      (source ≠ target → ∃ conversion,
        Conversion.classify scalar sourceType targetType = .ok conversion ∧
        conversion ≠ .exact ∧ function.sitesOn branch = [⟨branch, source, target, conversion⟩])
  /-- A masked value is copied, once, exactly when it is a view. -/
  value : ∀ {consumer : NodeId} {e : Expr}, body.postorder[consumer]? = some e →
    ∀ value ∈ e.valueRoots consumer, ∃ source sourceType,
      function.nodeType? value = some source ∧ ctx.get? source = some sourceType ∧
      (sourceType = .stringView → ∃ target, ctx.get? target = some .ownedString ∧
        function.sitesOn value = [⟨value, source, target, .materialize⟩]) ∧
      (sourceType ≠ .stringView → function.sitesOn value = [])
  complete : ∀ site ∈ function.conversions, ∃ consumer, body.Converts consumer site.node
  once : (function.conversions.map (·.node)).Nodup
  ordered : (function.conversions.map (·.node)).Pairwise body.ConvertsBefore
  /-- Text that becomes an owned string, masked or not, is always copied. -/
  text : ∀ site ∈ function.conversions, ∀ sourceType targetType,
    ctx.get? site.source = some sourceType → ctx.get? site.target = some targetType →
    sourceType = .stringView ∨ sourceType = .stringLiteral →
      (targetType = .ownedString → site.conversion = .materialize) ∧
      (targetType = .maskedString → site.conversion = .materializeValid)

theorem TypedFunction.Shows.node_at {function : TypedFunction} {index : Nat}
    (shown : function.Shows env params ctx body type packed)
    (found : body.postorder[index]? = some e) :
    ∃ node id, nodeOf env params e = .ok node ∧ function.nodeType? index = some id ∧
      ctx.lookup? node.type = some id := by
  obtain ⟨bound, same⟩ := List.getElem?_eq_some_iff.mp found
  have inside : index < function.nodeTypes.length := by
    rw [shown.nodeTypes.length_eq]
    exact bound
  have typed := shown.nodeTypes.get inside bound
  simp only [List.get_eq_getElem, same] at typed
  obtain ⟨node, typed, named⟩ := typed
  exact ⟨node, _, typed, List.getElem?_eq_getElem inside, named⟩

theorem TypedFunction.Shows.sites_on {function : TypedFunction}
    (shown : function.Shows env params ctx body type packed) (operand : NodeId) :
    List.Forall₂ (ConversionSite.Shows ctx) (function.sitesOn operand)
      ((sitesFrom env params 0 body.postorder).filter (·.node = operand)) := by
  refine List.rel_filter ?_ shown.conversions
  intro typed site same
  simp [same.node]

theorem TypedFunction.Shows.converted_nodes {function : TypedFunction}
    (shown : function.Shows env params ctx body type packed) :
    function.conversions.map (·.node) = (sitesFrom env params 0 body.postorder).map (·.node) := by
  rw [← List.forall₂_eq_eq_eq, List.forall₂_map_left_iff, List.forall₂_map_right_iff]
  exact shown.conversions.imp fun _ _ same => same.node

private theorem branchSites_of_ne (different : branch ≠ joined)
    (classified : Conversion.classify scalar branch joined = .ok conversion) :
    conversion ≠ .exact ∧
      branchSites scalar node branch joined = [⟨node, branch, joined, conversion⟩] := by
  have inexact : conversion ≠ .exact := by
    intro same
    rw [same, Conversion.classify_eq_exact_iff] at classified
    exact different classified
  refine ⟨inexact, ?_⟩
  simp [branchSites, classified, Conversion.isNoop, inexact]

private theorem branchSites_self : branchSites scalar node joined joined = [] := by
  simp [branchSites, Conversion.classify_self, Conversion.isNoop]

private theorem classify_of_mem_sitesAt (member : site ∈ sitesAt env params consumer e) :
    Conversion.classify env.scalar site.source site.target = .ok site.conversion := by
  have branch {node : NodeId} {source target : Ty}
      (asked : site ∈ branchSites env.scalar node source target) :
      Conversion.classify env.scalar site.source site.target = .ok site.conversion := by
    unfold branchSites at asked
    split at asked
    · rename_i conversion classified
      split at asked
      · simp at asked
      · rw [List.mem_singleton.mp asked]
        exact classified
    · simp at asked
  cases e with
  | masked value valid =>
    simp only [sitesAt] at member
    split at member
    · rw [List.mem_singleton.mp member]
      exact Conversion.classify_text_owned env.scalar (.inl rfl)
    · simp at member
  | ifElse cond thenBranch elseBranch =>
    simp only [sitesAt] at member
    split at member
    · exact (List.mem_append.mp member).elim branch branch
    · simp at member
  | _ => simp [sitesAt] at member

private theorem eq_singleton_of_shows {site : Site}
    (recorded : List.Forall₂ (ConversionSite.Shows ctx) sites [site]) :
    ∃ source target, ctx.lookup? site.source = some source ∧
      ctx.lookup? site.target = some target ∧
      sites = [⟨site.node, source, target, site.conversion⟩] := by
  obtain ⟨typed, rest, same, tail, rfl⟩ := List.forall₂_cons_right_iff.mp recorded
  obtain rfl := List.forall₂_nil_right_iff.mp tail
  obtain ⟨node, source, target, conversion⟩ := typed
  obtain ⟨rfl, sourceId, targetId, rfl⟩ := same
  exact ⟨source, target, sourceId, targetId, rfl⟩

section Function

variable {ctx : Context} {function : TypedFunction} {type packed : Ty}

private theorem branch_exact (shown : function.Shows env params ctx body type packed)
    (found : body.postorder[consumer]? = some e) (member : operand ∈ e.branchRoots consumer) :
    ∃ source target sourceType targetType,
      function.nodeType? operand = some source ∧ function.nodeType? consumer = some target ∧
      ctx.get? source = some sourceType ∧ ctx.get? target = some targetType ∧
      (source = target → function.sitesOn operand = []) ∧
      (source ≠ target → ∃ conversion,
        Conversion.classify env.scalar sourceType targetType = .ok conversion ∧
        conversion ≠ .exact ∧
        function.sitesOn operand = [⟨operand, source, target, conversion⟩]) := by
  obtain ⟨joinedNode, target, joined, targetAt, targetId⟩ := shown.node_at found
  obtain ⟨branch, node, branchAt, typed, ⟨way, classified⟩, asked⟩ :=
    sitesFrom_filter_branch found member joined
  obtain ⟨actual, source, actualTyped, sourceAt, sourceId⟩ := shown.node_at branchAt
  have same : actual = node := Except.ok.inj (actualTyped.symm.trans typed)
  subst actual
  have recorded := shown.sites_on operand
  rw [asked] at recorded
  refine ⟨source, target, node.type, joinedNode.type, sourceAt, targetAt,
    Context.get?_of_lookup? sourceId, Context.get?_of_lookup? targetId, ?_, ?_⟩
  · intro equal
    subst equal
    rw [Context.lookup?_injective sourceId targetId, branchSites_self] at recorded
    exact List.forall₂_nil_right_iff.mp recorded
  · intro unequal
    have different : node.type ≠ joinedNode.type := by
      intro equal
      rw [equal, targetId] at sourceId
      exact unequal (Option.some.inj sourceId).symm
    obtain ⟨inexact, needed⟩ := branchSites_of_ne different classified
    rw [needed] at recorded
    obtain ⟨id, targetAgain, idFound, targetFound, sites⟩ := eq_singleton_of_shows recorded
    obtain rfl : source = id := Option.some.inj (sourceId.symm.trans idFound)
    obtain rfl : target = targetAgain := Option.some.inj (targetId.symm.trans targetFound)
    exact ⟨way, classified, inexact, sites⟩

private theorem value_exact (shown : function.Shows env params ctx body type packed)
    (found : body.postorder[consumer]? = some e) (member : operand ∈ e.valueRoots consumer) :
    ∃ source sourceType,
      function.nodeType? operand = some source ∧ ctx.get? source = some sourceType ∧
      (sourceType = .stringView → ∃ target, ctx.get? target = some .ownedString ∧
        function.sitesOn operand = [⟨operand, source, target, .materialize⟩]) ∧
      (sourceType ≠ .stringView → function.sitesOn operand = []) := by
  obtain ⟨value, valueAt, view, other⟩ := sitesFrom_filter_value found member
  obtain ⟨node, source, typed, sourceAt, sourceId⟩ := shown.node_at valueAt
  have recorded := shown.sites_on operand
  refine ⟨source, node.type, sourceAt, Context.get?_of_lookup? sourceId, ?_, ?_⟩
  · intro isView
    rw [view (isView ▸ typeOf_of_nodeOf typed)] at recorded
    obtain ⟨id, target, idFound, targetId, sites⟩ := eq_singleton_of_shows recorded
    rw [isView] at sourceId
    obtain rfl : source = id := Option.some.inj (sourceId.symm.trans idFound)
    exact ⟨target, Context.get?_of_lookup? targetId, sites⟩
  · intro notView
    rw [other (by rw [typeOf_of_nodeOf typed]; simpa using notView)] at recorded
    exact List.forall₂_nil_right_iff.mp recorded

private theorem forall₂_mem_left {R : α → β → Prop} (related : List.Forall₂ R left right)
    (member : x ∈ left) : ∃ y ∈ right, R x y := by
  induction related with
  | nil => simp at member
  | cons head _ ih =>
    rcases List.mem_cons.mp member with rfl | later
    · exact ⟨_, by simp, head⟩
    · obtain ⟨y, present, related⟩ := ih later
      exact ⟨y, by simp [present], related⟩

private theorem asked_of_mem (shown : function.Shows env params ctx body type packed)
    (member : typed ∈ function.conversions) :
    ∃ site consumer e, typed.Shows ctx site ∧ body.postorder[consumer]? = some e ∧
      site ∈ sitesAt env params consumer e := by
  obtain ⟨site, asked, same⟩ := forall₂_mem_left shown.conversions member
  obtain ⟨consumer, e, found, asked⟩ := mem_sitesFrom_iff.mp asked
  exact ⟨site, 0 + consumer, e, same, by simpa using found, asked⟩

private theorem complete_conversions (shown : function.Shows env params ctx body type packed)
    (member : typed ∈ function.conversions) : ∃ consumer, body.Converts consumer typed.node := by
  obtain ⟨site, consumer, e, same, found, asked⟩ := asked_of_mem shown member
  exact ⟨consumer, same.node ▸ converts_of_mem_sitesAt found asked⟩

private theorem ordered_conversions (shown : function.Shows env params ctx body type packed) :
    (function.conversions.map (·.node)).Pairwise body.ConvertsBefore := by
  rw [shown.converted_nodes]
  exact sitesFrom_ordered env params body

private theorem nodup_conversions (shown : function.Shows env params ctx body type packed) :
    (function.conversions.map (·.node)).Nodup := by
  refine (ordered_conversions shown).imp_of_mem ?_
  rintro first second member _ before rfl
  obtain ⟨typed, present, rfl⟩ := List.mem_map.mp member
  obtain ⟨consumer, converts⟩ := complete_conversions shown present
  rcases before consumer consumer converts converts with below | ⟨_, e, found, roots⟩
  · exact Nat.lt_irrefl _ below
  · -- Both branches of one join would have the same root.
    cases e with
    | ifElse cond thenBranch elseBranch =>
      have order := Expr.then_lt_else found
      simp only [Expr.branchRoots, List.cons.injEq, and_true] at roots
      exact absurd (roots.1.trans roots.2.symm) (Nat.ne_of_lt order)
    | _ => simp [Expr.branchRoots] at roots

private theorem text_copied (shown : function.Shows env params ctx body type packed)
    (member : typed ∈ function.conversions) (source : ctx.get? typed.source = some sourceType)
    (target : ctx.get? typed.target = some targetType)
    (text : sourceType = .stringView ∨ sourceType = .stringLiteral) :
    (targetType = .ownedString → typed.conversion = .materialize) ∧
      (targetType = .maskedString → typed.conversion = .materializeValid) := by
  obtain ⟨site, consumer, e, same, found, asked⟩ := asked_of_mem shown member
  have classified := classify_of_mem_sitesAt asked
  have sourceIs : site.source = sourceType :=
    Option.some.inj ((Context.get?_of_lookup? same.source).symm.trans source)
  have targetIs : site.target = targetType :=
    Option.some.inj ((Context.get?_of_lookup? same.target).symm.trans target)
  rw [sourceIs, targetIs, ← same.conversion] at classified
  constructor
  · rintro rfl
    exact Except.ok.inj (classified.symm.trans (Conversion.classify_text_owned env.scalar text))
  · rintro rfl
    exact Except.ok.inj (classified.symm.trans (Conversion.classify_text_masked env.scalar text))

end Function

/-- A successful typing records the conversions that the joins and the masked values of the
body need, each once and in the order of the nodes that need them, and no others. -/
theorem inferFunction_converts_exactly (env : TypingEnv) (ctx grown : Context)
    (params : List Ty) (body : Expr) (function : TypedFunction)
    (success : inferFunction env ctx params body = (.ok function, grown)) :
    function.ConvertsExactly env.scalar grown body := by
  obtain ⟨type, packed, shown⟩ := inferFunction_shows success
  exact {
    roots := Expr.converted_roots
    branch := fun found _ member => branch_exact shown found member
    value := fun found _ member => value_exact shown found member
    complete := fun _ member => complete_conversions shown member
    once := nodup_conversions shown
    ordered := ordered_conversions shown
    text := fun _ member _ _ source target text => text_copied shown member source target text }

/-- A masked view joined with a literal, and the result joined with `NA`. -/
def nestedJoin : Expr :=
  .ifElse (.param 1)
    (.ifElse (.param 1) (.masked (.param 0) (.param 1)) (.literal (.string "x"))) .na

/-- The view, the literal and `NA` are converted; the branches that already have the joined
type are not. -/
theorem nestedJoin_converts_exactly :
    ∃ function grown,
      inferFunction ⟨.numeric, {}⟩ .initial [.stringView, .bool] nestedJoin =
        (.ok function, grown) ∧
      function.conversions =
        [⟨2, 1, 2, .materialize⟩, ⟨5, 3, 24, .materializeValid⟩, ⟨7, 0, 24, .nullToMasked⟩] ∧
      function.ConvertsExactly .numeric grown nestedJoin := by
  have typed : inferFunction ⟨.numeric, {}⟩ .initial [.stringView, .bool] nestedJoin =
      (.ok
        { nodeTypes := [4, 4, 1, 4, 24, 3, 24, 0, 24]
          signatures := [(4, ⟨.maskedString, [.stringView, .bool], none⟩)]
          conversions :=
            [⟨2, 1, 2, .materialize⟩, ⟨5, 3, 24, .materializeValid⟩, ⟨7, 0, 24, .nullToMasked⟩]
          body := 24
          result := 24 },
        Context.initial.internAll [.maskedString]) := by decide +kernel
  exact ⟨_, _, typed, rfl, inferFunction_converts_exactly _ _ _ _ _ _ typed⟩

end RowTyping
