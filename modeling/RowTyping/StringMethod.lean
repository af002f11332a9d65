import RowTyping.Rule.Resolve

/-! The methods of masked strings. A method's arguments and result follow from the routine
that implements it: the receiver is the routine's first input, and a routine that writes a
destination yields a new masked string. -/

namespace RowTyping

inductive StringMethod where
  | startsWith
  | endsWith
  | find
  | rfind
  | upper
  | lower
deriving DecidableEq, Repr

namespace StringMethod

def all : List StringMethod := [.startsWith, .endsWith, .find, .rfind, .upper, .lower]

def routine : StringMethod → Foreign.Routine
  | .startsWith => .startsWith
  | .endsWith => .endsWith
  | .find => .find
  | .rfind => .rfind
  | .upper => .upper
  | .lower => .lower

def name (method : StringMethod) : String := method.routine.name

/-- Number of arguments besides the receiver. -/
def arity (method : StringMethod) : Nat := method.routine.inputs.length - 1

def result (method : StringMethod) : Ty :=
  if method.routine.hasOutput then .maskedString else .primitive method.routine.result.primitive

def ofName? (text : String) : Option StringMethod := all.find? (·.name = text)

def ofName (text : String) : Except TypeError StringMethod :=
  match ofName? text with
  | some method => .ok method
  | none => .error (.unreadable text .stringMethod)

/-- Type a call. The receiver is checked first, then the settings, the number of arguments,
and the arguments from the left. -/
def signature (env : TypingEnv) (method : StringMethod) (receiver : Ty) (args : List Ty) :
    Except TypeError Signature :=
  if receiver ≠ .maskedString then .error (.unknownAttribute receiver.name method.name)
  else
    match env.requireStrings method.name with
    | .error failure => .error failure
    | .ok () =>
      if args.length ≠ method.arity then
        .error (.argumentCount method.name method.arity args.length)
      else
        match args.find? (· ≠ .maskedString) with
        | some arg => .error (.argumentMismatch method.name Ty.maskedString.name arg.name)
        | none => .ok ⟨method.result, args, some receiver⟩

end StringMethod

end RowTyping
