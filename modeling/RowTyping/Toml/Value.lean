namespace RowTyping.Toml

/-- How a table came about. -/
inductive Origin where
  /-- As a parent in the path of a header. -/
  | implied
  /-- As a parent in a dotted key. -/
  | dotted
  /-- By a header of its own. -/
  | defined
  /-- As an inline table, which is complete. -/
  | inline
deriving DecidableEq, Repr

inductive Value where
  | string (text : String)
  | integer (value : Int)
  /-- A float, as written. -/
  | float (numeral : String)
  | boolean (value : Bool)
  | dateTime (text : String)
  | array (items : List Value)
  | table (origin : Origin) (entries : List (String × Value))
  /-- The tables of an array of tables. -/
  | tables (rows : List (List (String × Value)))

/-- Keys and values of a table, in the order of the text. -/
abbrev Entries := List (String × Value)

namespace Entries

def replace (entries : Entries) (key : String) (value : Value) : Entries :=
  entries.map fun entry => if entry.1 = key then (key, value) else entry

def erase (entries : Entries) (key : String) : Entries := entries.filter (·.1 ≠ key)

end Entries

end RowTyping.Toml
