import RowTyping.Command.Argument

/-! What a command line asks for. Options may stand before and after the name of the command; each
may be given once on either side, and the one after it counts. -/

namespace RowTyping.Command

/-- Why a command line asks no query. -/
inductive Stop where
  | usage
  | version
  | help
deriving DecidableEq, Repr

structure Options where
  config : Option String := none
  verbose : Bool := false
  color : Option String := none
deriving DecidableEq, Repr

namespace Options

/-- Takes over one option, which must not have been given before. -/
def add (options : Options) : Argument → Except Stop Options
  | .config path =>
    if options.config.isSome then .error .usage else .ok { options with config := some path }
  | .verbose => if options.verbose then .error .usage else .ok { options with verbose := true }
  | .color choice =>
    if options.color.isSome then .error .usage else .ok { options with color := some choice }
  | .version => .error .version
  | .help => .error .help
  | .word _ | .endOfOptions | .unusable => .error .usage

/-- Options before and after the name of the command, taken together. -/
def merge (before after : Options) : Options where
  config := after.config <|> before.config
  verbose := before.verbose || after.verbose
  color := after.color <|> before.color

def configPath (options : Options) : String := options.config.getD "maskjit.toml"

end Options

inductive Verb where
  | op
  | unify
  | method
  | pack
  | bindings
  | config
deriving DecidableEq, Repr

inductive Query where
  | operator (symbol : String) (operands : List String)
  | join (left right : String)
  | method (receiver name : String) (args : List String)
  | pack (type : String)
  | routines
  | settings
deriving DecidableEq, Repr

namespace Verb

def all : List Verb := [.op, .unify, .method, .pack, .bindings, .config]

def name : Verb → String
  | .op => "op"
  | .unify => "unify"
  | .method => "method"
  | .pack => "pack"
  | .bindings => "bindings"
  | .config => "config"

def ofName? (text : String) : Option Verb := all.find? (·.name = text)

/-- Whether another word may follow `count` words, the last `run` of which stand together after the
first. Operands come in runs of at most two, and an option ends a run. -/
def accepts (verb : Verb) (count run : Nat) : Bool :=
  match verb with
  | .op => count = 0 || run < 2
  | .unify => count < 2
  | .method => true
  | .pack => count < 1
  | .bindings | .config => false

def query? : Verb → List String → Option Query
  | .op, symbol :: operand :: operands => some (.operator symbol (operand :: operands))
  | .unify, [left, right] => some (.join left right)
  | .method, receiver :: name :: args => some (.method receiver name args)
  | .pack, [type] => some (.pack type)
  | .bindings, [] => some .routines
  | .config, [] => some .settings
  | _, _ => none

/-- The words and options after the name of a command. The version is asked for before it only. -/
def readRest (verb : Verb) (options : Options) (words : List String) (run : Nat) :
    List Argument → Except Stop (Options × List String)
  | [] => .ok (options, words)
  | .word text :: rest =>
    if verb.accepts words.length run then
      readRest verb options (words ++ [text]) (if words.isEmpty then 0 else run + 1) rest
    else .error .usage
  | .endOfOptions :: rest => readRest verb options words run rest
  | .version :: _ => .error .usage
  | argument :: rest => do readRest verb (← options.add argument) words 0 rest

end Verb

structure Invocation where
  options : Options
  query : Query
deriving DecidableEq, Repr

namespace Invocation

/-- Why asking for help asks no query. Help is on all commands or on one. -/
def readHelp : List Argument → Stop
  | [] => .help
  | [.word name] => if name = "help" || (Verb.ofName? name).isSome then .help else .usage
  | _ => .usage

/-- The name of a command, after the options in `options`, and what follows it. -/
def readFrom (options : Options) : List Argument → Except Stop Invocation
  | [] => .error .usage
  | .word name :: rest =>
    match Verb.ofName? name with
    | some verb => do
      let (after, words) ← verb.readRest {} [] 0 rest
      match verb.query? words with
      | some query => .ok ⟨options.merge after, query⟩
      | none => .error .usage
    | none => .error (if name = "help" then readHelp rest else .usage)
  | argument :: rest => do readFrom (← options.add argument) rest

def ofArguments (texts : List String) : Except Stop Invocation :=
  readFrom {} (Argument.readAll texts)

end Invocation

end RowTyping.Command
