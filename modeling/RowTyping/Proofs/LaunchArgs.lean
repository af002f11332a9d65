import RowTyping.Foreign.Launch

namespace RowTyping.Foreign

variable {handlers : List Handler} {args : List LaunchArg} {arg : LaunchArg}

namespace LaunchArg

def through (handlers : List Handler) (arg : LaunchArg) : LaunchArg :=
  handlers.foldl (fun arg handler => handler arg) arg

private theorem through_cons (handler : Handler) (handlers : List Handler) (arg : LaunchArg) :
    arg.through (handler :: handlers) = (handler arg).through handlers := rfl

theorem through_append (first second : List Handler) (arg : LaunchArg) :
    arg.through (first ++ second) = (arg.through first).through second :=
  List.foldl_append

private theorem narrow_of_ne (other : ∀ address, arg ≠ ownedString address) : arg.narrow = arg := by
  unfold narrow
  split
  next address => exact (other address rfl).elim
  next => rfl

theorem narrow_cases (arg : LaunchArg) :
    (∃ address, arg = ownedString address ∧ arg.narrow = ⟨.address, .uint address⟩) ∨
      (∀ address, arg ≠ ownedString address) ∧ arg.narrow = arg := by
  by_cases pointer : ∃ address, arg = ownedString address
  · obtain ⟨address, rfl⟩ := pointer
    exact .inl ⟨address, rfl, rfl⟩
  · have other : ∀ address, arg ≠ ownedString address := by
      intro address same
      exact pointer ⟨address, same⟩
    exact .inr ⟨other, narrow_of_ne other⟩

/-- Narrowing leaves no address of an owned string behind. -/
theorem narrow_ne_ownedString (arg : LaunchArg) (address : UInt64) :
    arg.narrow ≠ ownedString address := by
  intro left
  rcases narrow_cases arg with ⟨source, _, narrowed⟩ | ⟨other, kept⟩
  · cases narrowed.symm.trans left
  · exact other address (kept.symm.trans left)

theorem narrow_narrow (arg : LaunchArg) : arg.narrow.narrow = arg.narrow :=
  narrow_of_ne (narrow_ne_ownedString arg)

/-- However often an argument is narrowed, once is enough. -/
theorem through_replicate (n : Nat) (arg : LaunchArg) :
    arg.through (List.replicate (n + 1) narrow) = arg.narrow := by
  induction n generalizing arg with
  | zero => rfl
  | succ n ih =>
    rw [List.replicate_succ, through_cons, ih, narrow_narrow]

end LaunchArg

open LaunchArg

private theorem prepare_getElem? (handlers : List Handler) (args : List LaunchArg) (i : Nat) :
    (prepare handlers args)[i]? = args[i]?.map (through handlers) :=
  List.getElem?_map

private theorem prepare_length (handlers : List Handler) (args : List LaunchArg) :
    (prepare handlers args).length = args.length :=
  List.length_map _

theorem prepare_append_handlers (first second : List Handler) (args : List LaunchArg) :
    prepare (first ++ second) args = prepare second (prepare first args) := by
  apply List.ext_getElem?
  intro i
  rw [prepare_getElem?, prepare_getElem?, prepare_getElem?, Option.map_map]
  congr
  funext arg
  exact through_append first second arg

theorem prepare_append_args (handlers : List Handler) (front rest : List LaunchArg) :
    prepare handlers (front ++ rest) = prepare handlers front ++ prepare handlers rest :=
  List.map_append

private theorem prepare_replicate {n : Nat} (positive : 0 < n) (args : List LaunchArg) :
    prepare (List.replicate n narrow) args = args.map narrow := by
  obtain ⟨previous, rfl⟩ := Nat.exists_eq_add_of_le' positive
  apply List.ext_getElem?
  intro i
  rw [prepare_getElem?, List.getElem?_map]
  congr
  funext arg
  exact through_replicate previous arg

theorem prepare_again {n : Nat} (positive : 0 < n) (again : Nat) (args : List LaunchArg) :
    prepare (List.replicate again narrow) (prepare (List.replicate n narrow) args) =
      prepare (List.replicate n narrow) args := by
  rw [← prepare_append_handlers, List.replicate_append_replicate,
    prepare_replicate (Nat.add_pos_left positive again), prepare_replicate positive]

/-- What narrowing makes of a list of arguments, position by position. -/
structure NarrowedTo (args narrowed : List LaunchArg) : Prop where
  length : narrowed.length = args.length
  /-- A position changes exactly where it held the address of an owned string, and then to the
  same address. -/
  changed : ∀ (i : Nat) (address : UInt64), args[i]? = some (ownedString address) ↔
    narrowed[i]? = some ⟨.address, .uint address⟩ ∧ narrowed[i]? ≠ args[i]?
  kept : ∀ (i : Nat) arg, args[i]? = some arg → (∀ address, arg ≠ ownedString address) →
    narrowed[i]? = some arg
  /-- A pointer to an owned string stays one only where its payload is no address. -/
  survivors : ∀ (i : Nat) arg, narrowed[i]? = some arg → arg.type = .pointer .ownedString →
    args[i]? = some arg ∧ ∀ address, arg.value ≠ .address address

private theorem narrowedTo_map (args : List LaunchArg) : NarrowedTo args (args.map narrow) where
  length := List.length_map _
  changed i address := by
    rw [List.getElem?_map]
    constructor
    · intro found
      rw [found]
      exact ⟨rfl, fun same => narrow_ne_ownedString _ address (Option.some.inj same)⟩
    · rintro ⟨result, different⟩
      cases found : args[i]? with
      | none => simp [found] at result
      | some arg =>
        rw [found] at result different
        rcases narrow_cases arg with ⟨source, pointer, narrowed⟩ | ⟨_, kept⟩
        · cases narrowed.symm.trans (Option.some.inj result)
          exact congrArg some pointer
        · exact (different (congrArg some kept)).elim
  kept i arg found other := by
    rw [List.getElem?_map, found]
    exact congrArg some (narrow_of_ne other)
  survivors i arg result pointer := by
    rw [List.getElem?_map] at result
    obtain ⟨source, found, rfl⟩ := Option.map_eq_some_iff.mp result
    have noAddress : ∀ address, source.narrow.value ≠ .address address := by
      intro address value
      apply narrow_ne_ownedString source address
      rw [ownedString, ← pointer, ← value]
    rcases narrow_cases source with ⟨address, _, narrowed⟩ | ⟨_, kept⟩
    · rw [narrowed] at pointer
      cases pointer
    · rw [kept] at noAddress ⊢
      exact ⟨found, noAddress⟩

/-- Preparation is cut along handlers and along arguments, keeps every argument in its place, and
any number of narrowings narrows exactly the addresses of owned strings. -/
theorem prepare_narrows {n : Nat} (positive : 0 < n) :
    (∀ first second args, prepare (first ++ second) args = prepare second (prepare first args)) ∧
      (∀ handlers front rest,
        prepare handlers (front ++ rest) = prepare handlers front ++ prepare handlers rest) ∧
      (∀ handlers args, (prepare handlers args).length = args.length ∧
        ∀ i : Nat, (prepare handlers args)[i]? = args[i]?.map (through handlers)) ∧
      ∀ args, prepare (List.replicate n narrow) args = prepare [narrow] args ∧
        NarrowedTo args (prepare (List.replicate n narrow) args) ∧
        ∀ again, prepare (List.replicate again narrow) (prepare (List.replicate n narrow) args) =
          prepare (List.replicate n narrow) args := by
  refine ⟨prepare_append_handlers, prepare_append_args, ?_, ?_⟩
  · intro handlers args
    exact ⟨prepare_length handlers args, prepare_getElem? handlers args⟩
  · intro args
    refine ⟨prepare_replicate positive args, ?_, fun again => prepare_again positive again args⟩
    rw [prepare_replicate positive]
    exact narrowedTo_map args

/-- Owned strings at both ends of the address space, the address of a view, and a pointer that
holds no address. -/
def mixedArgs : List LaunchArg :=
  [.ownedString 0, ⟨.pointer .stringView, .address 64⟩, .ownedString 0xffffffffffffffff,
    ⟨.pointer .ownedString, .uint 8⟩]

theorem mixedArgs_narrow :
    prepare (List.replicate 3 narrow) mixedArgs =
        [⟨.address, .uint 0⟩, ⟨.pointer .stringView, .address 64⟩,
          ⟨.address, .uint 0xffffffffffffffff⟩, ⟨.pointer .ownedString, .uint 8⟩] ∧
      NarrowedTo mixedArgs (prepare (List.replicate 3 narrow) mixedArgs) ∧
      prepare (List.replicate 2 narrow) (prepare (List.replicate 3 narrow) mixedArgs) =
        prepare (List.replicate 3 narrow) mixedArgs := by
  have positive : 0 < 3 := by decide
  obtain ⟨_, _, _, narrows⟩ := prepare_narrows positive
  obtain ⟨_, exactly, again⟩ := narrows mixedArgs
  exact ⟨rfl, exactly, again 2⟩

end RowTyping.Foreign
