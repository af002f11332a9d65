import RowTyping.Toml.Numeral
import RowTyping.Toml.Quoted

/-! TOML documents. The text is read into statements first; the statements then build one
table, which refuses a key that is given twice and a table that is defined twice. -/

namespace RowTyping.Toml

open Reader

/-- Arrays and inline tables nest less deep than this, and keys have fewer parts. -/
def depthLimit : Nat := 80

def isBareKeyChar (c : Char) : Bool := c.isAlphanum || c == '-' || c == '_'

def bareKey : Reader String := do
  let name ← run isBareKeyChar
  if name.isEmpty then failure else return String.ofList name

def keyPart : Reader String := do
  blanks
  let part ← basicString <|> literalString <|> bareKey
  blanks
  return part

/-- A key of one or more parts with points between them. -/
def key : Reader (List String) := do
  let first ← keyPart
  let rest ← many (do char '.'; keyPart)
  if rest.length + 1 < depthLimit then return first :: rest else failure

abbrev Assignment := List String × Value

namespace Entries

/-- Add a value under a dotted key, making the tables on its way. `direct` says whether
single keys may be added to the given table: they may be to one that a header or dotted
keys built, not to one that was only implied or that is a row of an array. -/
def assign (value : Value) : (path : List String) → (direct : Bool) → Entries → Option Entries
  | [], _, _ => none
  | [key], direct, entries =>
    if direct && (entries.lookup key).isNone then some (entries ++ [(key, value)]) else none
  | key :: path, _, entries =>
    match entries.lookup key with
    | none => (assign value path true []).map fun inner => entries ++ [(key, .table .dotted inner)]
    | some (.table .dotted inner) =>
      (assign value path true inner).map fun inner => entries.replace key (.table .dotted inner)
    | some (.table .implied inner) =>
      (assign value path false inner).map fun inner => entries.replace key (.table .implied inner)
    | some (.tables rows) =>
      (assign value path false (rows.getLast?.getD [])).map fun inner =>
        entries.replace key (.tables (rows.dropLast ++ [inner]))
    | some _ => none

def assignAll (entries : Entries) (assignments : List Assignment) : Option Entries :=
  assignments.foldlM (fun entries (path, value) => assign value path true entries) entries

/-- Change the table at a path of a header, making the tables on its way. An array of tables
stands for its last row. -/
def modifyAt (change : Entries → Option Entries) : (path : List String) → Entries → Option Entries
  | [], entries => change entries
  | key :: path, entries =>
    match entries.lookup key with
    | none => (modifyAt change path []).map fun inner => entries ++ [(key, .table .implied inner)]
    | some (.table .inline _) => none
    | some (.table origin inner) =>
      (modifyAt change path inner).map fun inner => entries.replace key (.table origin inner)
    | some (.tables rows) =>
      (modifyAt change path (rows.getLast?.getD [])).map fun inner =>
        entries.replace key (.tables (rows.dropLast ++ [inner]))
    | some _ => none

/-- Define a table by its header. A table that was implied before is moved to the end. -/
def defineTable (key : String) (assignments : List Assignment) (entries : Entries) :
    Option Entries :=
  match entries.lookup key with
  | none => (assignAll [] assignments).map fun inner => entries ++ [(key, .table .defined inner)]
  | some (.table .implied inner) =>
    (assignAll inner assignments).map fun inner =>
      entries.erase key ++ [(key, .table .defined inner)]
  | some _ => none

def appendRow (key : String) (assignments : List Assignment) (entries : Entries) :
    Option Entries :=
  match entries.lookup key with
  | none => (assignAll [] assignments).map fun row => entries ++ [(key, .tables [row])]
  | some (.tables rows) =>
    (assignAll [] assignments).map fun row => entries.replace key (.tables (rows ++ [row]))
  | some _ => none

end Entries

/-- The items of an array after its opening bracket, at most `bound`. -/
def arrayItems (item : Reader Value) : (bound : Nat) → Reader (List Value)
  | 0 => failure
  | bound + 1 => do
    gap
    match ← attempt (char ']') with
    | some () => return []
    | none =>
      let value ← item
      gap
      match ← attempt (char ',') with
      | some () => return value :: (← arrayItems item bound)
      | none =>
        char ']'
        return [value]

def array (item : Reader Value) : Reader Value := do
  char '['
  let items ← fun input => arrayItems item (input.length + 1) input
  return .array items

/-- The entries of an inline table that has some, at most `bound`. -/
def inlineEntries (item : Reader Value) : (bound : Nat) → Reader (List Assignment)
  | 0 => failure
  | bound + 1 => do
    let path ← key
    char '='
    blanks
    let value ← item
    blanks
    match ← attempt (char ',') with
    | some () => return (path, value) :: (← inlineEntries item bound)
    | none =>
      char '}'
      return [(path, value)]

def inlineTable (item : Reader Value) : Reader Value := do
  char '{'
  blanks
  match ← attempt (char '}') with
  | some () => return .table .inline []
  | none =>
    let assignments ← fun input => inlineEntries item (input.length + 1) input
    match Entries.assignAll [] assignments with
    | some entries => return .table .inline entries
    | none => failure

/-- A value in which brackets nest at most `depth` deep. The first character decides which
form it has. -/
def value : (depth : Nat) → Reader Value
  | 0 => (.string <$> string) <|> bareValue
  | depth + 1 =>
    (.string <$> string) <|> bareValue <|> array (value depth) <|> inlineTable (value depth)

inductive Statement where
  | assign (path : List String) (value : Value)
  | header (path : List String)
  /-- A header that starts a row of an array of tables. -/
  | rowHeader (path : List String)

def assignment : Reader Statement := do
  let path ← key
  char '='
  blanks
  let value ← value (depthLimit - 1)
  lineEnd
  return .assign path value

def header : Reader Statement := do
  char '['
  let path ← key
  char ']'
  lineEnd
  return .header path

def rowHeader : Reader Statement := do
  text "[["
  let path ← key
  text "]]"
  lineEnd
  return .rowHeader path

/-- A statement, or a line without one. -/
def line : Reader (Option Statement) := do
  blanks
  (some <$> rowHeader) <|> (some <$> header) <|> (some <$> assignment) <|> (do
    let _ ← attempt comment
    newline
    return none)

/-- Every statement of a text, which a byte order mark may precede. The last line may end
without a newline. -/
def statements : Reader (List Statement) := do
  let _ ← attempt (char '\ufeff')
  let lines ← many line
  blanks
  let _ ← attempt comment
  finish
  return lines.filterMap id

/-- The assignments before the first header, and those that follow each header. -/
def sections : List Statement → List Assignment × List (Statement × List Assignment)
  | [] => ([], [])
  | .assign path value :: rest =>
    let (leading, parts) := sections rest
    ((path, value) :: leading, parts)
  | head :: rest =>
    let (leading, parts) := sections rest
    ([], (head, leading) :: parts)

def addSection (entries : Entries) (part : Statement × List Assignment) : Option Entries :=
  match part with
  | (.header path, assignments) =>
    entries.modifyAt (Entries.defineTable (path.getLast?.getD "") assignments) path.dropLast
  | (.rowHeader path, assignments) =>
    entries.modifyAt (Entries.appendRow (path.getLast?.getD "") assignments) path.dropLast
  | (.assign _ _, _) => none

def parse? (text : String) : Option Entries := do
  let (lines, _) ← statements text.toList
  let (leading, parts) := sections lines
  parts.foldlM addSection (← Entries.assignAll [] leading)

end RowTyping.Toml
