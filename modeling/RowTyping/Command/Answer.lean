import RowTyping.Attribute
import RowTyping.Command.Environment
import RowTyping.Command.Invocation
import RowTyping.Command.Style
import RowTyping.Conversion
import RowTyping.Foreign.StringLayout
import RowTyping.Scalar.Promotion
import RowTyping.Settings.Document
import RowTyping.Ty.Reading
import RowTyping.Unify

namespace RowTyping.Command

/-- Why a query has no answer. -/
inductive QueryError where
  | settings (failure : SettingsError)
  | type (failure : TypeError)
  | operandCount (symbol : String) (count : Nat)
  /-- Arguments for an attribute that is not called. -/
  | notMethod (name : String)
deriving DecidableEq, Repr

namespace QueryError

def message : QueryError → String
  | .settings failure => failure.message
  | .type failure => failure.message
  | .operandCount symbol count => s!"`{symbol}` takes one or two operand types, got {count}"
  | .notMethod name => s!"`{name}` is an attribute, not a method"

/-- The text of what led to the failure, where that is known. -/
def cause? : QueryError → Option String
  | .settings (.file fault) => some fault.message
  | _ => none

def text (failure : QueryError) : String :=
  let cause := match failure.cause? with
    | some cause => "\n\nCaused by:\n    " ++ cause
    | none => ""
  "Error: " ++ failure.message ++ cause ++ "\n"

end QueryError

/-- What has been said and logged. -/
structure Transcript where
  output : List Span := []
  log : List LogLine := []
deriving DecidableEq, Repr

abbrev Answering := ExceptT QueryError (StateM Transcript)

namespace Answering

def say (spans : List Span) : Answering Unit :=
  modify fun transcript => { transcript with output := transcript.output ++ spans }

def note (level : Level) (message : String) : Answering Unit :=
  modify fun transcript => { transcript with log := transcript.log ++ [⟨level, message⟩] }

def typed {α : Type} : Except TypeError α → Answering α
  | .ok value => pure value
  | .error failure => throw (.type failure)

end Answering

open Answering

/-- The operation that a symbol names with a number of operands. -/
def operationOf (symbol : String) (count : Nat) : Except QueryError Operation :=
  match symbol, count with
  | "is", 2 => .ok .isNull
  | "len", 1 => .ok .len
  | "bool", 1 => .ok .truth
  | "Masked", 2 => .ok .construct
  | _, 1 => ((UnaryOp.ofSymbol symbol).map .unary).mapError .type
  | _, 2 => ((BinaryOp.ofSymbol symbol).map .binary).mapError .type
  | _, _ => .error (.operandCount symbol count)

def envOf (settings : Settings) : TypingEnv := ⟨.numeric, settings⟩

/-- The operation and operand types that an operator query means; the types are read first. -/
def operatorQuery (symbol : String) (operands : List String) :
    Except QueryError (Operation × List Ty) := do
  let types ← (operands.mapM Ty.ofName).mapError .type
  let operation ← operationOf symbol types.length
  return (operation, types)

def operatorSignature (settings : Settings) (symbol : String) (operands : List String) :
    Except QueryError Signature := do
  let (operation, types) ← operatorQuery symbol operands
  (resolve (envOf settings) operation types).mapError .type

def resolveNoted (settings : Settings) (operation : Operation) (operands : List Ty) :
    Answering Signature := do
  note .trace s!"operator table built with {Rule.table.length} rules"
  match resolve (envOf settings) operation operands with
  | .ok signature =>
    note .debug (operation.name ++ " " ++ signature.text ++ " resolved")
    return signature
  | .error failure =>
    note .debug (operation.name ++ " declined: " ++ failure.message)
    throw (.type failure)

/-- The log lines of a join. A bare type that `NA` cannot mask is refused before anything is logged,
and `NA` joined with a mask is answered by the join in the other order. -/
def joinLines (a b : Ty) (outcome : Except TypeError Ty) : List LogLine :=
  let line (left right : Ty) : LogLine :=
    let call := "unify(" ++ left.name ++ ", " ++ right.name ++ ")"
    match outcome with
    | .ok type => ⟨.debug, call ++ " = " ++ type.name⟩
    | .error failure => ⟨.debug, call ++ " failed: " ++ failure.message⟩
  match a, b, outcome with
  | .null, _, .error _ | _, .null, .error _ => []
  | .null, .masked _, .ok _ => [line b a, line a b]
  | _, _, _ => [line a b]

def answerOperator (settings : Settings) (symbol : String) (operands : List String) :
    Answering Unit := do
  let (operation, types) ← ExceptT.mk (pure (operatorQuery symbol operands))
  let signature ← resolveNoted settings operation types
  say [.plain (symbol ++ " "), .info signature.text, .newline]

def answerJoin (left right : String) : Answering Unit := do
  let a ← typed (Ty.ofName left)
  let b ← typed (Ty.ofName right)
  let outcome := Ty.unify .numeric a b
  for line in joinLines a b outcome do note line.level line.message
  let joined ← typed outcome
  say (Span.field "type" joined.name)
  for (side, type) in [("left", a), ("right", b)] do
    let conversion ← typed (Conversion.classify .numeric type joined)
    say (Span.field side (type.name ++ " (" ++ conversion.name ++ ")"))

def answerMethod (settings : Settings) (receiver name : String) (args : List String) :
    Answering Unit := do
  let receiver ← typed (Ty.ofName receiver)
  let args ← typed (args.mapM Ty.ofName)
  match ← typed (Attribute.resolve (envOf settings) receiver name) with
  | .member type =>
    if !args.isEmpty then throw (.notMethod name)
    say (Span.field name type.name)
  | .method bound =>
    let signature ← typed (bound.signature (envOf settings) receiver args)
    note .debug (bound.name ++ " " ++ signature.text ++ " resolved")
    say (Span.field name signature.text)
    say (Span.field "lowers to" bound.routine.prototype)

def answerPack (settings : Settings) (type : String) : Answering Unit := do
  let type ← typed (Ty.ofName type)
  let signature ← resolveNoted settings .pack [type]
  say [.success signature.result.name, .newline]

def padded (width : Nat) (text : String) : String :=
  text ++ String.ofList (List.replicate (width - text.length) ' ')

def answerRoutines : Answering Unit := do
  for routine in Foreign.Routine.all do
    say [.info (padded 22 routine.name), .plain routine.prototype, .newline]
  say [.newline]
  say (Span.field "string_view" s!"{Foreign.StringView.layoutSize} bytes")
  say (Span.field "owned_string" s!"{Foreign.OwnedString.layoutSize} bytes")

def answerQuery (settings : Settings) : Query → Answering Unit
  | .operator symbol operands => answerOperator settings symbol operands
  | .join left right => answerJoin left right
  | .method receiver name args => answerMethod settings receiver name args
  | .pack type => answerPack settings type
  | .routines => answerRoutines
  | .settings => say [.plain settings.render]

/-- The settings in force. A missing file is logged and stands for the defaults. -/
def loadSettings (path : String) (file : FileState) : Answering Settings := do
  if let .missing := file then note .debug ("no config at " ++ path ++ ", using defaults")
  match Settings.ofFileOrDefault file with
  | .ok settings => return settings
  | .error failure => throw (.settings failure)

structure Report where
  exitCode : UInt8
  output : String := ""
  log : List LogLine := []
  failure : String := ""
deriving DecidableEq, Repr

/-- All that goes to the error channel: the log, then the failure. -/
def Report.errors (report : Report) : String :=
  String.join (report.log.map LogLine.record) ++ report.failure

namespace Stop

def usageText : String :=
  "Usage: maskjit [--config <PATH>] [-v|--verbose] [--color <WHEN>] <COMMAND>\n\n" ++
  "Commands:\n" ++
  "  op <OP> <TYPE> [TYPE]           type an operator\n" ++
  "  unify <TYPE> <TYPE>             join two types\n" ++
  "  method <TYPE> <NAME> [TYPE]...  type an attribute or a method\n" ++
  "  pack <TYPE>                     type a returned value\n" ++
  "  bindings                        list the string routines\n" ++
  "  config                          print the settings\n"

/-- The report of a command line without a query. -/
def report : Stop → Report
  | .usage => { exitCode := 2, failure := usageText }
  | .version => { exitCode := 0, output := "maskjit 0.2.0\n" }
  | .help => { exitCode := 0, output := usageText }

end Stop

/-- Answers an invocation, given what stands at the path of its settings file. -/
def Invocation.run (invocation : Invocation) (env : Environment) (file : FileState) : Report :=
  let options := invocation.options
  let answering : Answering Unit := do
    answerQuery (← loadSettings options.configPath file) invocation.query
  let (outcome, transcript) := answering.run.run {}
  let colored := env.colored options.color
  let output := String.join (transcript.output.map (Span.render colored))
  let log := transcript.log.filter (LogLine.shown (env.leastLevel options.verbose))
  match outcome with
  | .ok () => { exitCode := 0, output, log }
  | .error failure => { exitCode := 1, output, log, failure := failure.text }

end RowTyping.Command
