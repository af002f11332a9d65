import RowTyping.Foreign.Launch
import RowTyping.Foreign.StringLayout

/-! Strings alive at the boundary. Views and owned strings are numbered apart, each in the order of
creation; a creation that fails takes no number, and an owned string that was given up leaves
its number empty. -/

namespace RowTyping.Foreign

structure StringStore where
  views : List StringView := []
  owned : List (Option OwnedString) := []
deriving DecidableEq, Repr

namespace StringStore

inductive Action where
  | createView (content : Content)
  | inspectView (view : Nat)
  | cloneView (view : Nat)
  | countView (view : Nat)
  | createEmpty
  | createOwned (buffer : Buffer)
  | copyView (view : Nat) (reserved : Nat := 0)
  | inspectOwned (owned : Nat)
  | viewOwned (owned : Nat)
  /-- Counts the characters of an owned string through a view that is not kept. -/
  | borrowOwned (owned : Nat)
  /-- Passes an owned string that lies at an address. -/
  | passOwned (owned : Nat) (address : UInt64)
  | takeText (owned : Nat)
  | dropOwned (owned : Nat)
deriving DecidableEq, Repr

inductive Reply where
  | view (view : StringView)
  | counted (before : StringView) (length : Int32) (after : StringView)
  | owned (owned : OwnedString)
  | copied (source : StringView) (owned : OwnedString)
  /-- A view of an owned string, before and after its characters are counted. -/
  | borrowed (owned : OwnedString) (before : StringView) (length : Int32) (after : StringView)
  /-- The launch argument for an owned string, as declared and as handed over. -/
  | argument (declared prepared : LaunchArg)
  | text (text : String)
  | dropped
  | failed (failure : LayoutError)
  /-- Nothing has the number. -/
  | absent
deriving DecidableEq, Repr

def view? (store : StringStore) (number : Nat) : Option StringView := store.views[number]?

def owned? (store : StringStore) (number : Nat) : Option OwnedString := store.owned[number]?.join

def addView (store : StringStore) (view : StringView) : StringStore :=
  { store with views := store.views ++ [view] }

def addOwned (store : StringStore) (owned : OwnedString) : StringStore :=
  { store with owned := store.owned ++ [some owned] }

/-- What follows a creation: a new number, or none on failure. -/
def created {α : Type} (store : StringStore) (outcome : Except LayoutError α) (reply : α → Reply)
    (add : α → StringStore) : Reply × StringStore :=
  match outcome with
  | .ok value => (reply value, add value)
  | .error failure => (.failed failure, store)

def withView (store : StringStore) (number : Nat) (use : StringView → Reply × StringStore) :
    Reply × StringStore :=
  match store.view? number with
  | some view => use view
  | none => (.absent, store)

def withOwned (store : StringStore) (number : Nat) (use : OwnedString → Reply × StringStore) :
    Reply × StringStore :=
  match store.owned? number with
  | some owned => use owned
  | none => (.absent, store)

def step (store : StringStore) : Action → Reply × StringStore
  | .createView content => store.created (StringView.of content) .view store.addView
  | .inspectView number => store.withView number fun view => (.view view, store)
  | .cloneView number => store.withView number fun view => (.view view, store.addView view)
  | .countView number => store.withView number fun view =>
    let (length, after) := view.count
    (.counted view length after, { store with views := store.views.set number after })
  | .createEmpty => (.owned .empty, store.addOwned .empty)
  | .createOwned buffer => store.created (OwnedString.ofBuffer buffer) .owned store.addOwned
  | .copyView number reserved => store.withView number fun view =>
    store.created (OwnedString.ofView view reserved) (.copied view) store.addOwned
  | .inspectOwned number => store.withOwned number fun owned => (.owned owned, store)
  | .viewOwned number => store.withOwned number fun owned =>
    store.created owned.view .view store.addView
  | .borrowOwned number => store.withOwned number fun owned =>
    match owned.view with
    | .ok view =>
      let (length, after) := view.count
      (.borrowed owned view length after, store)
    | .error failure => (.failed failure, store)
  | .passOwned number address => store.withOwned number fun _ =>
    let declared := LaunchArg.ownedString address
    (.argument declared declared.narrow, store)
  | .takeText number => store.withOwned number fun owned =>
    (.text owned.asText, { store with owned := store.owned.set number none })
  | .dropOwned number => store.withOwned number fun _ =>
    (.dropped, { store with owned := store.owned.set number none })

def run (store : StringStore) : List Action → List Reply × StringStore
  | [] => ([], store)
  | action :: rest =>
    let (reply, next) := store.step action
    let (replies, last) := next.run rest
    (reply :: replies, last)

end StringStore

end RowTyping.Foreign
