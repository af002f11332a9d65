import RowTyping.Proofs.ContextInvariant
import RowTyping.Proofs.Join
import RowTyping.Proofs.PromotionOrder

/-! Masks by id. Asking for the mask over a type and asking for the type under a mask undo each
other, except that a mask over a view holds an owned string. Kept answers only save work: an
answer is always the id that interning the mask gives, and a refused request leaves no trace. -/

namespace RowTyping

theorem MaskedValue.ofTy?_type (held : MaskedValue) : ofTy? held.type = some held := by
  cases held <;> rfl

theorem MaskedValue.ofTy?_isSome_iff {ty : Ty} :
    (ofTy? ty).isSome ↔ ty.isPrimitive ∨ ty.isStoredString := by
  cases ty <;> simp [ofTy?, Ty.isPrimitive, Ty.isStoredString]

namespace Context

variable {ctx later : Context} {ty : Ty} {id value mask : TypeId} {held : MaskedValue}

/-- What a mask over the type with an id holds; there is none over an unknown id. -/
def held? (ctx : Context) (id : TypeId) : Option MaskedValue :=
  (ctx.get? id).bind MaskedValue.ofTy?

private theorem held?_eq_some_iff :
    ctx.held? id = some held ↔ ∃ ty, ctx.get? id = some ty ∧ MaskedValue.ofTy? ty = some held :=
  Option.bind_eq_some_iff

theorem Grows.held? (growth : ctx.Grows later) (covered : ctx.held? id = some held) :
    later.held? id = some held := by
  obtain ⟨ty, found, covers⟩ := held?_eq_some_iff.mp covered
  exact held?_eq_some_iff.mpr ⟨ty, growth.get? found, covers⟩

/-- A kept answer is the id of the mask over the type of its value. -/
theorem Valid.kept (valid : ctx.Valid) (kept : ctx.maskIds.lookup value = some mask) :
    ∃ held, ctx.held? value = some held ∧ ctx.lookup? (.masked held) = some mask := by
  have entry : (value, mask) ∈ ctx.maskIds := (lookup_eq_some_iff_mem valid.keys).mp kept
  obtain ⟨ty, masked, found, covered, named⟩ := valid.masks value mask entry
  obtain ⟨held, covers, rfl⟩ := Ty.mask_eq_ok_iff.mp covered
  refine ⟨held, held?_eq_some_iff.mpr ⟨ty, found, covers⟩, ?_⟩
  exact lookup?_eq_some_iff.mpr named

/-- Asking for a mask does to the types what interning it does, whether or not the answer was
kept. -/
theorem Valid.masked_of_held (valid : ctx.Valid) (covered : ctx.held? value = some held) :
    (ctx.masked value).1 = .ok (ctx.intern (.masked held)).1 ∧
      (ctx.masked value).2.types = (ctx.intern (.masked held)).2.types := by
  obtain ⟨ty, found, covers⟩ := held?_eq_some_iff.mp covered
  cases kept : ctx.maskIds.lookup value with
  | some mask =>
    obtain ⟨other, same, named⟩ := valid.kept kept
    cases covered.symm.trans same
    rw [intern_of_lookup? named, Context.masked, kept]
    exact ⟨rfl, rfl⟩
  | none =>
    have masks : ty.mask = .ok (.masked held) := Ty.mask_eq_ok_iff.mpr ⟨held, covers, rfl⟩
    simp [Context.masked, kept, found, masks]

theorem Valid.masked_of_not_held (valid : ctx.Valid) (uncovered : ctx.held? value = none) :
    ∃ failure, ctx.masked value = (.error failure, ctx) := by
  have unkept : ctx.maskIds.lookup value = none := by
    cases kept : ctx.maskIds.lookup value with
    | none => rfl
    | some mask =>
      obtain ⟨held, covered, _⟩ := valid.kept kept
      cases uncovered.symm.trans covered
  rw [Context.masked, unkept]
  cases found : ctx.get? value with
  | none => exact ⟨_, rfl⟩
  | some ty =>
    have covers : MaskedValue.ofTy? ty = none := by simpa [held?, found] using uncovered
    exact ⟨.unsupportedValue ty.name, by simp [Ty.mask, covers]⟩

theorem Valid.masked_eq_ok_iff (valid : ctx.Valid) :
    (ctx.masked value).1 = .ok mask ↔
      ∃ held, ctx.held? value = some held ∧ (ctx.intern (.masked held)).1 = mask := by
  cases covered : ctx.held? value with
  | none =>
    obtain ⟨failure, refused⟩ := valid.masked_of_not_held covered
    simp [refused]
  | some held =>
    simp [(valid.masked_of_held covered).1]

private theorem Valid.masked_of_lookup? (valid : ctx.Valid) (covered : ctx.held? value = some held)
    (named : ctx.lookup? (.masked held) = some mask) : (ctx.masked value).1 = .ok mask := by
  rw [(valid.masked_of_held covered).1, intern_of_lookup? named]

/-- Once a mask was asked for, every later context finds it at the id that was answered. -/
theorem Valid.after_masked (valid : ctx.Valid) (covered : ctx.held? value = some held)
    (answered : (ctx.masked value).1 = .ok mask) (more : List Action) :
    ((ctx.masked value).2.run more).Valid ∧ ctx.Grows ((ctx.masked value).2.run more) ∧
      ((ctx.masked value).2.run more).lookup? (.masked held) = some mask := by
  have growth : (ctx.masked value).2.Grows ((ctx.masked value).2.run more) := run_grows _ more
  refine ⟨(valid.masked value).run more, (ctx.step_grows (.masked value)).trans growth, ?_⟩
  obtain ⟨answer, sameTypes⟩ := valid.masked_of_held covered
  cases answered.symm.trans answer
  apply growth.lookup?
  rw [lookup?_eq_some_iff, TypeTable.get?, sameTypes]
  exact get?_of_lookup? (ctx.lookup?_intern (.masked held))

theorem Valid.lookup?_held (valid : ctx.Valid) (held : MaskedValue) :
    ∃ id, ctx.lookup? held.type = some id := by
  have single : held.type ∈ initial.types := by
    rw [initial_types]
    cases held with
    | ownedString => decide
    | primitive p =>
      apply List.mem_append_right
      exact List.mem_map_of_mem p.mem_all
  have present : held.type ∈ ctx.types := valid.begins.subset single
  cases found : ctx.lookup? held.type with
  | some id => exact ⟨id, rfl⟩
  | none => exact absurd present (lookup?_eq_none_iff.mp found)

private theorem Valid.valueTypeOf_masked (valid : ctx.Valid)
    (named : ctx.get? mask = some (.masked held)) :
    ctx.valueTypeOf mask = (ctx.lookup? held.type, ctx) := by
  obtain ⟨id, found⟩ := valid.lookup?_held held
  simp [valueTypeOf, named, Ty.masked?, intern_of_lookup? found, found]

private theorem valueTypeOf_other (other : ∀ held, ctx.get? mask ≠ some (.masked held)) :
    ctx.valueTypeOf mask = (none, ctx) := by
  have unmasked : (ctx.get? mask).bind Ty.masked? = none := by
    cases found : ctx.get? mask with
    | none => rfl
    | some ty =>
      cases ty with
      | masked held => exact absurd found (other held)
      | _ => rfl
  rw [valueTypeOf, unmasked]

/-- The id of what a mask over the type with an id holds: the id itself, except for a view. -/
theorem Valid.lookup?_held_of (valid : ctx.Valid) (covered : ctx.held? value = some held) :
    ctx.lookup? held.type = some (if value = stringViewId then ownedStringId else value) := by
  have named {id : TypeId} {ty : Ty} (first : initial.get? id = some ty) : ctx.get? id = some ty :=
    valid.begins.get? first
  have view : ctx.get? stringViewId = some .stringView := named rfl
  have owned : ctx.get? ownedStringId = some .ownedString := named rfl
  obtain ⟨ty, found, covers⟩ := held?_eq_some_iff.mp covered
  rw [lookup?_eq_some_iff]
  split
  next isView =>
    subst isView
    cases view.symm.trans found
    cases covers
    exact owned
  next noView =>
    cases ty with
    | primitive | ownedString =>
      cases covers
      exact found
    | stringView =>
      -- No other id names the view.
      have first := lookup?_eq_some_iff.mpr found
      have second := lookup?_eq_some_iff.mpr view
      exact absurd (Option.some.inj (first.symm.trans second)) noView
    | _ => cases covers

/-- How requests for masks and for the types under them fit together. -/
structure PairsMasks (ctx : Context) : Prop where
  /-- Masks are made over primitives and stored strings, and over nothing else. -/
  domain : ∀ id, (∃ mask, (ctx.masked id).1 = .ok mask) ↔
    ∃ ty, ctx.get? id = some ty ∧ (ty.isPrimitive ∨ ty.isStoredString)
  atomic : ∀ id failure, (ctx.masked id).1 = .error failure → (ctx.masked id).2 = ctx
  /-- A mask has the id at which it is interned, whichever is asked for first and whatever is
  done in between. -/
  canonical : ∀ id mask, (ctx.masked id).1 = .ok mask →
    ∃ ty masked, ctx.get? id = some ty ∧ ty.mask = .ok masked ∧ (ctx.intern masked).1 = mask ∧
      (ctx.masked id).2.types = (ctx.intern masked).2.types ∧
      (∀ more, (((ctx.intern masked).2.run more).masked id).1 = .ok mask) ∧
      ∀ more, (((ctx.masked id).2.run more).intern masked).1 = mask ∧
        (((ctx.masked id).2.run more).masked id).1 = .ok mask
  strings : ∃ mask, (ctx.masked stringViewId).1 = .ok mask ∧
    (ctx.masked ownedStringId).1 = .ok mask ∧
    ∀ more, (((ctx.masked stringViewId).2.run more).masked ownedStringId).1 = .ok mask ∧
      (((ctx.masked ownedStringId).2.run more).masked stringViewId).1 = .ok mask
  /-- Masks, and nothing else, have a type under them. -/
  valueDomain : ∀ id, (ctx.valueTypeOf id).1.isSome ↔
    ∃ held, ctx.get? id = some (.masked held)
  valueKeeps : ∀ id, (ctx.valueTypeOf id).2 = ctx
  value_masked : ∀ id mask, (ctx.masked id).1 = .ok mask → ∀ more,
    (((ctx.masked id).2.run more).valueTypeOf mask).1 =
      some (if id = stringViewId then ownedStringId else id)
  masked_value : ∀ mask id, (ctx.valueTypeOf mask).1 = some id →
    ((ctx.valueTypeOf mask).2.masked id).1 = .ok mask

namespace Valid

private theorem masked_domain (valid : ctx.Valid) (id : TypeId) :
    (∃ mask, (ctx.masked id).1 = .ok mask) ↔
      ∃ ty, ctx.get? id = some ty ∧ (ty.isPrimitive ∨ ty.isStoredString) := by
  simp only [valid.masked_eq_ok_iff, held?_eq_some_iff, ← MaskedValue.ofTy?_isSome_iff,
    Option.isSome_iff_exists]
  constructor
  · rintro ⟨mask, held, ⟨ty, found, covers⟩, _⟩
    exact ⟨ty, found, held, covers⟩
  · rintro ⟨ty, found, held, covers⟩
    exact ⟨_, held, ⟨ty, found, covers⟩, rfl⟩

private theorem masked_atomic {failure : TypeError} (valid : ctx.Valid)
    (failed : (ctx.masked id).1 = .error failure) :
    (ctx.masked id).2 = ctx := by
  cases covered : ctx.held? id with
  | some held =>
    rw [(valid.masked_of_held covered).1] at failed
    cases failed
  | none =>
    obtain ⟨_, refused⟩ := valid.masked_of_not_held covered
    rw [refused]

private theorem masked_canonical (valid : ctx.Valid) (answered : (ctx.masked id).1 = .ok mask) :
    ∃ ty masked, ctx.get? id = some ty ∧ ty.mask = .ok masked ∧ (ctx.intern masked).1 = mask ∧
      (ctx.masked id).2.types = (ctx.intern masked).2.types ∧
      (∀ more, (((ctx.intern masked).2.run more).masked id).1 = .ok mask) ∧
      ∀ more, (((ctx.masked id).2.run more).intern masked).1 = mask ∧
        (((ctx.masked id).2.run more).masked id).1 = .ok mask := by
  obtain ⟨held, covered, same⟩ := valid.masked_eq_ok_iff.mp answered
  obtain ⟨ty, found, covers⟩ := held?_eq_some_iff.mp covered
  refine ⟨ty, .masked held, found, Ty.mask_eq_ok_iff.mpr ⟨held, covers, rfl⟩, same,
    (valid.masked_of_held covered).2, ?_, ?_⟩
  · intro more
    have growth := run_grows (ctx.intern (.masked held)).2 more
    have named := growth.lookup? (ctx.lookup?_intern (.masked held))
    have known := ((ctx.intern_grows (.masked held)).trans growth).held? covered
    rw [same] at named
    exact ((valid.intern _).run more).masked_of_lookup? known named
  · intro more
    obtain ⟨still, growth, named⟩ := valid.after_masked covered answered more
    exact ⟨by rw [intern_of_lookup? named], still.masked_of_lookup? (growth.held? covered) named⟩

private theorem masked_strings (valid : ctx.Valid) :
    ∃ mask, (ctx.masked stringViewId).1 = .ok mask ∧ (ctx.masked ownedStringId).1 = .ok mask ∧
      ∀ more, (((ctx.masked stringViewId).2.run more).masked ownedStringId).1 = .ok mask ∧
        (((ctx.masked ownedStringId).2.run more).masked stringViewId).1 = .ok mask := by
  have known {id : TypeId} (first : initial.held? id = some .ownedString) :
      ctx.held? id = some .ownedString := valid.begins.held? first
  have view : ctx.held? stringViewId = some .ownedString := known rfl
  have owned : ctx.held? ownedStringId = some .ownedString := known rfl
  have viewMask := (valid.masked_of_held view).1
  have ownedMask := (valid.masked_of_held owned).1
  refine ⟨_, viewMask, ownedMask, fun more => ⟨?_, ?_⟩⟩
  · obtain ⟨still, growth, named⟩ := valid.after_masked view viewMask more
    exact still.masked_of_lookup? (growth.held? owned) named
  · obtain ⟨still, growth, named⟩ := valid.after_masked owned ownedMask more
    exact still.masked_of_lookup? (growth.held? view) named

theorem valueTypeOf_cases (valid : ctx.Valid) (id : TypeId) :
    (∃ held value, ctx.get? id = some (.masked held) ∧ ctx.lookup? held.type = some value ∧
        ctx.valueTypeOf id = (some value, ctx)) ∨
      (∀ held, ctx.get? id ≠ some (.masked held)) ∧ ctx.valueTypeOf id = (none, ctx) := by
  by_cases named : ∃ held, ctx.get? id = some (.masked held)
  · obtain ⟨held, named⟩ := named
    obtain ⟨value, found⟩ := valid.lookup?_held held
    exact .inl ⟨held, value, named, found, by rw [valid.valueTypeOf_masked named, found]⟩
  · have other : ∀ held, ctx.get? id ≠ some (.masked held) := not_exists.mp named
    exact .inr ⟨other, valueTypeOf_other other⟩

private theorem masked_valueTypeOf (valid : ctx.Valid)
    (under : (ctx.valueTypeOf mask).1 = some id) :
    ((ctx.valueTypeOf mask).2.masked id).1 = .ok mask := by
  rcases valid.valueTypeOf_cases mask with ⟨held, value, named, found, same⟩ | ⟨_, same⟩
  · rw [same] at under ⊢
    cases under
    have covered : ctx.held? id = some held :=
      held?_eq_some_iff.mpr ⟨held.type, get?_of_lookup? found, held.ofTy?_type⟩
    exact valid.masked_of_lookup? covered (lookup?_eq_some_iff.mpr named)
  · rw [same] at under
    cases under

theorem pairsMasks (valid : ctx.Valid) : ctx.PairsMasks where
  domain := valid.masked_domain
  atomic _ _ := valid.masked_atomic
  canonical _ _ := valid.masked_canonical
  strings := valid.masked_strings
  valueDomain id := by
    rcases valid.valueTypeOf_cases id with ⟨held, value, named, _, same⟩ | ⟨other, same⟩
    · simp [same, named]
    · simp [same, other]
  valueKeeps id := by
    rcases valid.valueTypeOf_cases id with ⟨_, _, _, _, same⟩ | ⟨_, same⟩
    · rw [same]
    · rw [same]
  value_masked id mask answered more := by
    obtain ⟨held, covered, _⟩ := valid.masked_eq_ok_iff.mp answered
    obtain ⟨still, growth, named⟩ := valid.after_masked covered answered more
    rw [still.valueTypeOf_masked (get?_of_lookup? named)]
    exact still.lookup?_held_of (growth.held? covered)
  masked_value _ _ := valid.masked_valueTypeOf

end Valid

/-- In every context that a run of operations reaches, masks and the types under them name each
other. -/
theorem run_pairs_masks (actions : List Action) : (initial.run actions).PairsMasks := by
  have valid : (initial.run actions).Valid := initial_valid.run actions
  exact valid.pairsMasks

end Context

end RowTyping
