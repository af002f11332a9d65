import RowTyping.Ty

/-! Interning of types. A context keeps every type that was seen, in order of first
appearance; the position of a type is its id, so equal ids mean equal types, and an id
stays valid however the context grows. -/

namespace RowTyping

/-- Position of a type in a context. -/
abbrev TypeId := Nat

def TypeId.text (id : TypeId) : String := "TypeId(" ++ toString id ++ ")"

/-- Types by id and ids by type, one the index of the other. -/
structure TypeTable where
  /-- The interned types; ids are positions. -/
  types : List Ty := []
  ids : List (Ty × TypeId) := []
deriving DecidableEq, Repr

namespace TypeTable

def get? (table : TypeTable) (id : TypeId) : Option Ty := table.types[id]?

def lookup? (table : TypeTable) (ty : Ty) : Option TypeId := table.ids.lookup ty

/-- The id of a type. A new type is written to both sides. -/
def intern (table : TypeTable) (ty : Ty) : TypeId × TypeTable :=
  match table.lookup? ty with
  | some id => (id, table)
  | none =>
    let id := table.types.length
    (id, { types := table.types ++ [ty], ids := (ty, id) :: table.ids })

def internAll (table : TypeTable) (types : List Ty) : TypeTable :=
  types.foldl (fun table ty => (table.intern ty).2) table

/-- Nobody writes to the table but by interning. -/
def Filled (table : TypeTable) : Prop := ∃ log, table = internAll {} log

theorem Filled.empty : Filled {} := ⟨[], rfl⟩

theorem Filled.intern {table : TypeTable} (filled : table.Filled) (ty : Ty) :
    (table.intern ty).2.Filled := by
  obtain ⟨log, rfl⟩ := filled
  exact ⟨log ++ [ty], by simp [internAll]⟩

end TypeTable

structure Context extends TypeTable where
  /-- Ids of values and of their masks, where a mask was asked for. -/
  maskIds : List (TypeId × TypeId) := []
  filled : toTypeTable.Filled
deriving DecidableEq, Repr

namespace Context

def size (ctx : Context) : Nat := ctx.types.length

def intern (ctx : Context) (ty : Ty) : TypeId × Context :=
  let interned := ctx.toTypeTable.intern ty
  (interned.1, { ctx with toTypeTable := interned.2, filled := ctx.filled.intern ty })

def internAll (ctx : Context) (types : List Ty) : Context :=
  types.foldl (fun ctx ty => (ctx.intern ty).2) ctx

/-- The types that every context starts with. -/
def singletons : List Ty :=
  [.null, .stringView, .ownedString, .stringLiteral] ++ Primitive.all.map .primitive

def initial : Context := internAll { filled := .empty } singletons

def nullId : TypeId := 0
def stringViewId : TypeId := 1
def ownedStringId : TypeId := 2
def stringLiteralId : TypeId := 3
def boolId : TypeId := 4

def name (ctx : Context) (id : TypeId) : String :=
  match ctx.get? id with
  | some ty => ty.name
  | none => id.text

/-- The id of the mask over the type with an id; answers are kept. On failure the context is
left as it was. -/
def masked (ctx : Context) (value : TypeId) : Except TypeError TypeId × Context :=
  match ctx.maskIds.lookup value with
  | some id => (.ok id, ctx)
  | none =>
    match ctx.get? value with
    | none => (.error (.unsupportedValue value.text), ctx)
    | some ty =>
      match ty.mask with
      | .error failure => (.error failure, ctx)
      | .ok mask =>
        let (id, grown) := ctx.intern mask
        (.ok id, { grown with maskIds := (value, id) :: grown.maskIds })

def valueTypeOf (ctx : Context) (id : TypeId) : Option TypeId × Context :=
  match (ctx.get? id).bind Ty.masked? with
  | some value =>
    let (valueId, grown) := ctx.intern value.type
    (some valueId, grown)
  | none => (none, ctx)

end Context

end RowTyping
