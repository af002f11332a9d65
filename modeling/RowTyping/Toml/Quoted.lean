import RowTyping.Toml.Reader

/-! Quoted text. Basic strings have escapes and literal strings have none; the multi-line
form of either starts after an optional newline, reads every newline as a line feed, and
may end in up to two quotes of its own before the closing three. -/

namespace RowTyping.Toml

open Reader

def hexDigit? (c : Char) : Option Nat :=
  if c.isDigit then some (c.toNat - '0'.toNat)
  else if 'a' ≤ c ∧ c ≤ 'f' then some (c.toNat - 'a'.toNat + 10)
  else if 'A' ≤ c ∧ c ≤ 'F' then some (c.toNat - 'A'.toNat + 10)
  else none

/-- A number of exactly so many hexadecimal digits. -/
def hexNumber (digits : Nat) : Reader Nat := fun input =>
  let lead := input.take digits
  if lead.length = digits then
    (lead.foldlM (fun value c => (hexDigit? c).map (16 * value + ·)) 0).map fun value =>
      (value, input.drop digits)
  else none

def codePoint (digits : Nat) : Reader Char := do
  let code ← hexNumber digits
  if code.isValidChar then return Char.ofNat code else failure

/-- What follows a backslash. -/
def escaped : Reader Char := do
  match ← next fun _ => true with
  | 'b' => return '\x08'
  | 't' => return '\t'
  | 'n' => return '\n'
  | 'f' => return '\x0c'
  | 'r' => return '\r'
  | '"' => return '"'
  | '\\' => return '\\'
  | 'u' => codePoint 4
  | 'U' => codePoint 8
  | _ => failure

def basicChar : Reader Char :=
  next (fun c => isPlain c && c != '"' && c != '\\') <|> (do char '\\'; escaped)

def literalChar : Reader Char := next fun c => isPlain c && c != '\''

def basicString : Reader String := do
  char '"'
  let content ← many basicChar
  char '"'
  return String.ofList content

def literalString : Reader String := do
  char '\''
  let content ← many literalChar
  char '\''
  return String.ofList content

/-- One or two quotes that do not close a multi-line string. -/
def innerQuotes (quote : Char) : Reader (List Char) := do
  let quotes ← run (· == quote)
  if quotes.length = 1 ∨ quotes.length = 2 then return quotes else failure

/-- The closing quotes of a multi-line string and those that belong to its text. -/
def closingQuotes (quote : Char) : Reader (List Char) := do
  let quotes ← run (· == quote)
  if 3 ≤ quotes.length ∧ quotes.length ≤ 5 then return quotes.drop 3 else failure

/-- A backslash at the end of a line, which drops the blanks and newlines up to the next
character. -/
def continuation : Reader Unit := do
  char '\\'
  blanks
  newline
  let _ ← many ((do let _ ← next isLineBlank) <|> newline)

/-- A multi-line string over the given pieces of text. -/
def multiline (quote : Char) (piece : Reader (List Char)) : Reader String := do
  char quote
  char quote
  char quote
  let _ ← attempt newline
  let pieces ← many (piece <|> (do newline; return ['\n']) <|> innerQuotes quote)
  let rest ← closingQuotes quote
  return String.ofList (pieces.flatten ++ rest)

def multilineBasic : Reader String :=
  multiline '"' ((do return [← basicChar]) <|> (do continuation; return []))

def multilineLiteral : Reader String := multiline '\'' (do return [← literalChar])

def string : Reader String :=
  multilineBasic <|> multilineLiteral <|> basicString <|> literalString

end RowTyping.Toml
