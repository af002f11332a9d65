import RowTyping.Text.Blank
import RowTyping.Text.Control

namespace RowTyping.Command

/-- Log levels, from the most to the least urgent. -/
inductive Level where
  | error
  | warn
  | info
  | debug
  | trace
deriving DecidableEq, Repr

namespace Level

def all : List Level := [.error, .warn, .info, .debug, .trace]

def name : Level → String
  | .error => "ERROR"
  | .warn => "WARN"
  | .info => "INFO"
  | .debug => "DEBUG"
  | .trace => "TRACE"

def rank : Level → Nat
  | .error => 1
  | .warn => 2
  | .info => 3
  | .debug => 4
  | .trace => 5

/-- The level of a name in capital or small letters. -/
def ofName? (text : String) : Option Level :=
  let letters := (Text.trim text.toList).map Char.toUpper
  all.find? fun level => level.name.toList = letters

end Level

structure LogLine where
  level : Level
  message : String
deriving DecidableEq, Repr

namespace LogLine

def indentation : List Char := List.replicate 4 ' '

/-- The record as it is written: its level, the message with later lines indented, and a line break,
without terminal control. -/
def record (line : LogLine) : String :=
  let message := line.message.toList.flatMap fun c => if c = '\n' then c :: indentation else [c]
  String.ofList (Text.withoutControls (line.level.name.toList ++ ' ' :: message ++ ['\n']))

/-- Whether a line is shown where `least` is the least urgent level shown, if any is. -/
def shown (least : Option Level) (line : LogLine) : Bool :=
  match least with
  | some level => line.level.rank ≤ level.rank
  | none => false

end LogLine

end RowTyping.Command
