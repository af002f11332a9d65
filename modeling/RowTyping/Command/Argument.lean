namespace RowTyping.Command

inductive Argument where
  | verbose
  | config (path : String)
  | color (choice : String)
  | version
  | help
  | word (text : String)
  /-- Two dashes, after which every argument is a word. -/
  | endOfOptions
  /-- An unknown option, or one whose value is missing, not wanted or not usable. -/
  | unusable
deriving DecidableEq, Repr

namespace Argument

/-- Whether a text has the form of an option. A single dash is a word. -/
def isOption (text : String) : Bool :=
  match text.toList with
  | '-' :: _ :: _ => true
  | _ => false

def ofLetter : Char → Argument
  | 'v' => .verbose
  | 'V' => .version
  | 'h' => .help
  | _ => .unusable

def ofName : String → Argument
  | "verbose" => .verbose
  | "version" => .version
  | "help" => .help
  | _ => .unusable

/-- What a value makes of the option of a name, if that option takes one. -/
def valued? : String → Option (String → Argument)
  | "config" => some fun path => if path.isEmpty then .unusable else .config path
  | "color" => some .color
  | _ => none

/-- The name of a long option, and the value after the first equals sign. -/
def splitName (body : List Char) : String × Option String :=
  let name := String.ofList (body.takeWhile (· ≠ '='))
  match body.dropWhile (· ≠ '=') with
  | [] => (name, none)
  | _ :: value => (name, some (String.ofList value))

/-- The arguments of a command line. An option without an attached value takes the next text,
unless that has the form of an option. -/
def readAll : List String → List Argument
  | [] => []
  | text :: rest =>
    match text.toList with
    | ['-', '-'] => .endOfOptions :: rest.map .word
    | '-' :: '-' :: body =>
      let (name, attached) := splitName body
      match valued? name, attached with
      | some make, some value => make value :: readAll rest
      | none, some _ => .unusable :: readAll rest
      | none, none => ofName name :: readAll rest
      | some make, none =>
        match rest with
        | [] => [.unusable]
        | value :: others => (if isOption value then .unusable else make value) :: readAll others
    | '-' :: letter :: letters => (letter :: letters).map ofLetter ++ readAll rest
    | _ => .word text :: readAll rest

end Argument

end RowTyping.Command
