import RowTyping.Text.Blank

namespace RowTyping.Toml

abbrev Reader (α : Type) := StateT (List Char) Option α

namespace Reader

/-- One character of a class. -/
def next (accept : Char → Bool) : Reader Char
  | [] => none
  | c :: rest => if accept c then some (c, rest) else none

def char (c : Char) : Reader Unit := do let _ ← next (· == c)

def text (expected : String) : Reader Unit := fun input =>
  (expected.toList.isPrefixOf? input).map fun rest => ((), rest)

def finish : Reader Unit
  | [] => some ((), [])
  | _ :: _ => none

/-- The longest run of characters of a class, which may be empty. -/
def run (accept : Char → Bool) : Reader (List Char) := fun input =>
  some (input.takeWhile accept, input.dropWhile accept)

/-- What a reader finds, or nothing. -/
def attempt {α : Type} (reader : Reader α) : Reader (Option α) := fun input =>
  match reader input with
  | some (value, rest) => some (some value, rest)
  | none => some (none, input)

/-- As many items as there are, at most `bound`. -/
def upTo {α : Type} (item : Reader α) : Nat → Reader (List α)
  | 0 => pure []
  | bound + 1 => do
    match ← attempt item with
    | some value => return value :: (← upTo item bound)
    | none => return []

/-- As many items as there are. Each item takes at least one character, so the length of
the text bounds their number. -/
def many {α : Type} (item : Reader α) : Reader (List α) := fun input =>
  upTo item input.length input

/-- Whether a reader accepts a text to its end. -/
def accepts {α : Type} (reader : Reader α) (input : List Char) : Bool :=
  match reader input with
  | some (_, []) => true
  | _ => false

end Reader

open Reader

def isLineBlank (c : Char) : Bool := c == ' ' || c == '\t'

/-- Characters that comments and strings may hold as they are: no controls but the tab. -/
def isPlain (c : Char) : Bool := c == '\t' || (0x20 ≤ c.toNat && c.toNat != 0x7F)

def blanks : Reader Unit := do let _ ← run isLineBlank

def newline : Reader Unit := char '\n' <|> text "\r\n"

def comment : Reader Unit := do
  char '#'
  let _ ← run isPlain

/-- Blanks, newlines and comments between the items of an array. -/
def gap : Reader Unit := do
  let _ ← many ((do let _ ← next isLineBlank) <|> newline <|> comment)

/-- What may follow a statement on its line. -/
def lineEnd : Reader Unit := do
  blanks
  let _ ← attempt comment
  newline <|> finish

end RowTyping.Toml
