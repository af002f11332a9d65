import RowTyping.Proofs.JoinOrder
import Mathlib.Order.Defs.Unbundled

namespace RowTyping

variable {a b c joined : Ty}

namespace Primitive

variable {a b c j : Primitive}

/-- Nothing below a widened type holds what was widened. -/
theorem Widens.minimal (widens : Widens a b j) (left : a.Fits c) (right : b.Fits c)
    (below : c.Fits j) : j.Fits c := by
  rcases widens.least left right with fits | ⟨rfl, _⟩
  · exact fits
  · -- No signed integer holds a `float32`, and what is widened to `float64` does not fit into it.
    cases widens with
    | mixed signed unsigned =>
      revert left right below
      cases signed <;> cases unsigned <;> decide
    | wide integer isInteger tooWide => exact absurd right tooWide

private theorem unify?_minimal (promoted : unify? a b = some j) (left : a.Fits c) (right : b.Fits c)
    (below : c.Fits j) : j.Fits c := by
  rcases unify?_cases promoted with rfl | rfl | widens | widens
  · exact left
  · exact right
  · exact widens.minimal left right below
  · exact widens.minimal right left below

end Primitive

namespace ScalarTyping

private theorem numeric_unify_minimal {ty : Ty} (scalarJoin : numeric.unify a b = some ty)
    (left : NumericFits a c) (right : NumericFits b c) (below : NumericFits c ty) :
    NumericFits ty c := by
  rcases numeric_unify_least scalarJoin left right with fits | ⟨rfl, _⟩
  · exact fits
  rcases numeric_unify_cases scalarJoin with ⟨p, q, r, rfl, rfl, rfl, promoted⟩ | same | text
  · obtain ⟨_, bound, leftFits⟩ := left.primitive
    cases bound
    obtain ⟨_, bound, rightFits⟩ := right.primitive
    cases bound
    obtain ⟨_, bound, joinFits⟩ := below.primitive
    cases bound
    have fits := Primitive.unify?_minimal promoted leftFits rightFits joinFits
    exact numericFits_iff.mpr (.inl ⟨r, .float32, rfl, rfl, fits⟩)
  · exact same.1 ▸ left
  · rw [text.2.2] at below
    cases below

end ScalarTyping

namespace Ty

open ScalarTyping

theorem below_isPartialOrder : IsPartialOrder Ty Below where
  refl := Below.refl
  trans _ _ _ := Below.trans
  antisymm _ _ := Below.antisymm

/-- A bound of two types with no other bound below it. -/
structure MinimalBound (a b bound : Ty) : Prop where
  left : Below a bound
  right : Below b bound
  minimal : ∀ other, Below a other → Below b other → Below other bound → other = bound

theorem unify_minimal (joins : unify .numeric a b = .ok joined) (left : Below a c)
    (right : Below b c) (below : Below c joined) : c = joined := by
  apply below.antisymm
  by_cases first : a = .null
  · subst first
    exact unify_null_least joins left right
  by_cases second : b = .null
  · subst second
    exact unify_null_least ((unify_eq_ok_comm numeric_symmetric).mp joins) right left
  have bound := left.ne_null first
  obtain ⟨present, scalarJoin, masks⟩ := (unify_eq_ok_iff first second).mp joins
  obtain ⟨leftFits, leftMasks⟩ := (below_iff first bound).mp left
  obtain ⟨rightFits, rightMasks⟩ := (below_iff second bound).mp right
  obtain ⟨fits, _⟩ := (below_iff bound present).mp below
  refine (below_iff present bound).mpr
    ⟨numeric_unify_minimal scalarJoin leftFits rightFits fits, ?_⟩
  intro masked
  rw [masks, Bool.or_eq_true] at masked
  exact masked.elim leftMasks rightMasks

theorem unify_minimalBound (joins : unify .numeric a b = .ok joined) : MinimalBound a b joined where
  left := unify_below_left joins
  right := unify_below_right joins
  minimal _ := unify_minimal joins

private theorem LacksJoin.unify_error (lacks : LacksJoin a b) :
    ∃ failure, unify .numeric a b = .error failure := by
  rcases lacks with ⟨rfl, rfl⟩ | ⟨rfl, rfl⟩
  · exact ⟨_, rfl⟩
  · exact ⟨_, rfl⟩

/-- A join is missing where there is no bound, and for `NA` with a string literal. -/
theorem unify_error_iff :
    (∃ failure, unify .numeric a b = .error failure) ↔
      (¬ ∃ bound, Below a bound ∧ Below b bound) ∨ LacksJoin a b := by
  constructor
  · rintro ⟨failure, failed⟩
    by_cases lacks : LacksJoin a b
    · exact .inr lacks
    · left
      rintro ⟨bound, left, right⟩
      obtain ⟨joined, joins⟩ := unify_of_below left right lacks
      cases failed.symm.trans joins
  · rintro (unbounded | lacks)
    · cases outcome : unify .numeric a b with
      | error failure => exact ⟨failure, rfl⟩
      | ok joined =>
        exact absurd ⟨joined, unify_below_left outcome, unify_below_right outcome⟩ unbounded
    · exact lacks.unify_error

private theorem unifyAll_go_head (scalar : ScalarTyping) (start : Ty) (rest : List Ty) :
    ∃ later failure, unifyAll.go scalar start rest = (start :: later, failure) := by
  cases rest with
  | nil => exact ⟨[], none, rfl⟩
  | cons next rest =>
    rw [unifyAll.go]
    split
    · exact ⟨_, _, rfl⟩
    · exact ⟨_, _, rfl⟩

/-- Each step of a chain of joins stays above all that was joined before. -/
private theorem unifyAll_go_below {start : Ty} {rest joins : List Ty}
    (ran : unifyAll.go .numeric start rest = (joins ++ [joined], none)) :
    ∀ ty ∈ start :: rest, Below ty joined := by
  induction rest generalizing start joins with
  | nil =>
    have same : start = joined := by
      have list := congrArg (fun outcome => outcome.1.getLast?) ran
      simpa [unifyAll.go] using list
    simp [same, Below.refl]
  | cons next rest ih =>
    rw [unifyAll.go] at ran
    split at ran
    next middle step =>
      obtain ⟨later, failure, tail⟩ := unifyAll_go_head .numeric middle rest
      rw [tail] at ran
      obtain ⟨list, rfl⟩ := Prod.mk.inj ran
      cases joins with
      | nil => simp at list
      | cons first joins =>
        have later' : middle :: later = joins ++ [joined] := (List.cons.inj list).2
        rw [later'] at tail
        have below := ih tail
        have reached : Below middle joined := below middle (by simp)
        intro ty member
        rcases List.mem_cons.mp member with rfl | member
        · exact (unify_below_left step).trans reached
        rcases List.mem_cons.mp member with rfl | member
        · exact (unify_below_right step).trans reached
        · exact below ty (by simp [member])
    next => cases (Prod.mk.inj ran).2

theorem unifyAll_below {types joins : List Ty}
    (ran : unifyAll .numeric types = (joins ++ [joined], none)) :
    ∀ ty ∈ types, Below ty joined := by
  cases types with
  | nil => simp
  | cons first rest => exact unifyAll_go_below ran

/-- A type converts to whatever is above it. -/
theorem Below.classify (below : Below a b) : ∃ way, Conversion.classify .numeric a b = .ok way :=
  unify_classify_left below

/-- Joins order the types. A join is a minimal bound of its operands, and there is none only
where there is no bound, or for `NA` with a string literal. In a chain of any length every type
is below the last join and converts to it. -/
theorem unify_minimal_upper_bound :
    IsPartialOrder Ty Below ∧
    (∀ a b joined, unify .numeric a b = .ok joined → MinimalBound a b joined) ∧
    (∀ a b, (∃ failure, unify .numeric a b = .error failure) ↔
      (¬ ∃ bound, Below a bound ∧ Below b bound) ∨ LacksJoin a b) ∧
    ∀ types joins joined, unifyAll .numeric types = (joins ++ [joined], none) →
      ∀ ty ∈ types, Below ty joined ∧ ∃ way, Conversion.classify .numeric ty joined = .ok way := by
  refine ⟨below_isPartialOrder, ?_, ?_, ?_⟩
  · intro a b joined joins
    exact unify_minimalBound joins
  · intro a b
    exact unify_error_iff
  · intro types joins joined ran ty member
    have below := unifyAll_below ran ty member
    exact ⟨below, below.classify⟩

/-- A signed and an unsigned integer, `NA` and a float, as the branches of a chain. -/
def mixedChain : List Ty :=
  [.primitive (.int .w16), .primitive (.uint .w16), .null, .primitive .float32]

/-- The first two types of the chain join to `int32`, which is not below their other bound
`float32`; so the chain ends in a masked `float64`, above all its types. -/
theorem mixedChain_minimal_upper_bound :
    unify .numeric (.primitive (.int .w16)) (.primitive (.uint .w16)) =
        .ok (.primitive (.int .w32)) ∧
      MinimalBound (.primitive (.int .w16)) (.primitive (.uint .w16)) (.primitive (.int .w32)) ∧
      Below (.primitive (.int .w16)) (.primitive .float32) ∧
      Below (.primitive (.uint .w16)) (.primitive .float32) ∧
      ¬ Below (.primitive (.int .w32)) (.primitive .float32) ∧
      unifyAll .numeric mixedChain =
        ([.primitive (.int .w16), .primitive (.int .w32), .masked (.primitive (.int .w32))] ++
          [.masked (.primitive .float64)], none) ∧
      ∀ ty ∈ mixedChain, Below ty (.masked (.primitive .float64)) ∧
        ∃ way, Conversion.classify .numeric ty (.masked (.primitive .float64)) = .ok way := by
  have joins : unify .numeric (.primitive (.int .w16)) (.primitive (.uint .w16)) =
      .ok (.primitive (.int .w32)) := rfl
  have apart : ¬ Below (.primitive (.int .w32)) (.primitive .float32) := by
    intro below
    cases below
  have ran : unifyAll .numeric mixedChain =
      ([.primitive (.int .w16), .primitive (.int .w32), .masked (.primitive (.int .w32))] ++
        [.masked (.primitive .float64)], none) := rfl
  obtain ⟨_, minimal, _, chain⟩ := unify_minimal_upper_bound
  exact ⟨joins, minimal _ _ _ joins, rfl, rfl, apart, ran, chain _ _ _ ran⟩

end Ty

end RowTyping
