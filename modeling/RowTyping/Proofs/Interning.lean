import RowTyping.Context

/-! Laws of interning. The two sides of a table agree however it was filled, contexts only grow
at the end, and so a type keeps its id and an id keeps its type. -/

namespace RowTyping

/-- In a list that keeps one entry a key, looking up finds what is there. -/
theorem lookup_eq_some_iff_mem [BEq α] [LawfulBEq α] {entries : List (α × β)}
    (keys : (entries.map Prod.fst).Nodup) :
    entries.lookup key = some value ↔ (key, value) ∈ entries := by
  rw [List.lookup_eq_some_iff]
  constructor
  · rintro ⟨front, back, rfl, _⟩
    simp
  · intro member
    obtain ⟨front, back, rfl⟩ := List.append_of_mem member
    refine ⟨front, back, rfl, fun entry before => ?_⟩
    rw [List.map_append, List.nodup_append] at keys
    have different := keys.2.2 entry.1 (List.mem_map_of_mem before) key (by simp)
    exact bne_iff_ne.mpr different.symm

theorem not_mem_keys [BEq α] [LawfulBEq α] {entries : List (α × β)}
    (absent : entries.lookup key = none) : key ∉ entries.map Prod.fst := by
  intro member
  obtain ⟨entry, present, rfl⟩ := List.mem_map.mp member
  simpa using List.lookup_eq_none_iff.mp absent entry present

namespace TypeTable

variable {table : TypeTable} {ty other : Ty} {id : TypeId}

/-- Each side is the index of the other. -/
structure Agrees (table : TypeTable) : Prop where
  entries : ∀ ty id, (ty, id) ∈ table.ids ↔ table.get? id = some ty
  keys : (table.ids.map Prod.fst).Nodup

private theorem concat_eq_some_iff {types : List Ty} {id : Nat} :
    (types ++ [ty])[id]? = some other ↔
      types[id]? = some other ∨ id = types.length ∧ other = ty := by
  rw [List.getElem?_append]
  split
  next old =>
    have before : id ≠ types.length := Nat.ne_of_lt old
    simp [before]
  next new =>
    have outside : types[id]? = none := List.getElem?_eq_none (Nat.not_lt.mp new)
    rw [outside, List.getElem?_singleton]
    constructor
    · intro found
      split at found
      next last =>
        cases found
        exact .inr ⟨by omega, rfl⟩
      next => cases found
    · rintro (none | ⟨rfl, rfl⟩)
      · cases none
      · simp

/-- Both writes of a new type are needed: one makes the type found at the id, the other the id
at the type. -/
theorem Agrees.intern (agrees : table.Agrees) (ty : Ty) : (table.intern ty).2.Agrees := by
  unfold TypeTable.intern
  split
  next => exact agrees
  next absent =>
    constructor
    · intro other id
      rw [List.mem_cons, agrees.entries other id, Prod.mk.injEq, or_comm, and_comm]
      exact concat_eq_some_iff.symm
    · exact List.nodup_cons.mpr ⟨not_mem_keys absent, agrees.keys⟩

theorem Agrees.internAll (agrees : table.Agrees) (types : List Ty) :
    (table.internAll types).Agrees := by
  induction types generalizing table with
  | nil => exact agrees
  | cons ty rest ih => exact ih (agrees.intern ty)

theorem Filled.agrees (filled : table.Filled) : table.Agrees := by
  obtain ⟨log, rfl⟩ := filled
  apply Agrees.internAll
  exact ⟨by simp [get?], .nil⟩

end TypeTable

namespace Context

variable {ctx middle grown : Context} {ty other : Ty} {id : TypeId}

theorem lookup?_eq_some_iff : ctx.lookup? ty = some id ↔ ctx.get? id = some ty :=
  (lookup_eq_some_iff_mem ctx.filled.agrees.keys).trans (ctx.filled.agrees.entries ty id)

theorem get?_of_lookup? (found : ctx.lookup? ty = some id) : ctx.get? id = some ty :=
  lookup?_eq_some_iff.mp found

theorem lookup?_injective (first : ctx.lookup? ty = some id)
    (second : ctx.lookup? other = some id) : ty = other :=
  Option.some.inj ((get?_of_lookup? first).symm.trans (get?_of_lookup? second))

theorem lookup?_eq_none_iff : ctx.lookup? ty = none ↔ ty ∉ ctx.types := by
  rw [List.mem_iff_getElem?, not_exists, Option.eq_none_iff_forall_ne_some]
  exact forall_congr' fun id => not_congr lookup?_eq_some_iff

theorem types_nodup (ctx : Context) : ctx.types.Nodup := by
  apply List.pairwise_iff_getElem.mpr
  intro first second firstWithin secondWithin below same
  have found := lookup?_eq_some_iff.mpr (List.getElem?_eq_getElem firstWithin)
  have again := lookup?_eq_some_iff.mpr (List.getElem?_eq_getElem secondWithin)
  rw [← same] at again
  cases found.symm.trans again
  exact Nat.lt_irrefl _ below

/-- The later context keeps all the types of the earlier one at their positions. -/
def Grows (ctx grown : Context) : Prop := ctx.types <+: grown.types

theorem Grows.refl (ctx : Context) : ctx.Grows ctx := List.prefix_refl _

theorem Grows.trans (first : ctx.Grows middle)
    (second : middle.Grows grown) : ctx.Grows grown :=
  List.IsPrefix.trans first second

theorem Grows.get? (growth : ctx.Grows grown)
    (found : ctx.get? id = some ty) : grown.get? id = some ty := by
  obtain ⟨added, same⟩ := growth
  have bound : id < ctx.types.length := (List.getElem?_eq_some_iff.mp found).1
  rw [TypeTable.get?, ← same, List.getElem?_append_left bound]
  exact found

theorem Grows.lookup? (growth : ctx.Grows grown)
    (found : ctx.lookup? ty = some id) : grown.lookup? ty = some id :=
  lookup?_eq_some_iff.mpr (growth.get? (get?_of_lookup? found))

theorem intern_of_lookup? (found : ctx.lookup? ty = some id) : ctx.intern ty = (id, ctx) := by
  have interned : ctx.toTypeTable.intern ty = (id, ctx.toTypeTable) := by
    rw [TypeTable.intern, found]
  simp only [intern, interned]

theorem intern_of_not_mem (absent : ty ∉ ctx.types) :
    (ctx.intern ty).1 = ctx.size ∧ (ctx.intern ty).2.types = ctx.types ++ [ty] := by
  have interned : ctx.toTypeTable.intern ty =
      (ctx.size, ⟨ctx.types ++ [ty], (ty, ctx.size) :: ctx.ids⟩) := by
    rw [TypeTable.intern, lookup?_eq_none_iff.mpr absent]
    rfl
  simp only [intern, interned, and_self]

theorem intern_of_mem (present : ty ∈ ctx.types) : (ctx.intern ty).2 = ctx := by
  obtain ⟨id, found⟩ := List.mem_iff_getElem?.mp present
  rw [intern_of_lookup? (lookup?_eq_some_iff.mpr found)]

theorem intern_grows (ctx : Context) (ty : Ty) : ctx.Grows (ctx.intern ty).2 := by
  by_cases present : ty ∈ ctx.types
  · rw [intern_of_mem present]
    exact Grows.refl ctx
  · rw [Grows, (intern_of_not_mem present).2]
    exact List.prefix_append _ _

theorem internAll_grows (ctx : Context) (types : List Ty) : ctx.Grows (ctx.internAll types) := by
  induction types generalizing ctx with
  | nil => exact Grows.refl ctx
  | cons ty rest ih => exact (ctx.intern_grows ty).trans (ih (ctx.intern ty).2)

theorem lookup?_intern (ctx : Context) (ty : Ty) :
    (ctx.intern ty).2.lookup? ty = some (ctx.intern ty).1 := by
  cases found : ctx.lookup? ty with
  | some id =>
    rw [intern_of_lookup? found]
    exact found
  | none =>
    obtain ⟨new, types⟩ := intern_of_not_mem (lookup?_eq_none_iff.mp found)
    rw [lookup?_eq_some_iff, new, TypeTable.get?, types]
    exact List.getElem?_concat_length

end Context

end RowTyping
