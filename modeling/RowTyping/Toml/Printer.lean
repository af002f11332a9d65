namespace RowTyping.Toml

/-- A text in quotes. The text holds no quote, backslash or control character. -/
def quoted (text : String) : String := "\"" ++ text ++ "\""

def flagText (value : Bool) : String := if value then "true" else "false"

/-- An array of written values. Only one that has at least two is spread over lines. -/
def arrayText : List String → String
  | [] => "[]"
  | [item] => "[" ++ item ++ "]"
  | items => "[\n" ++ String.join (items.map fun item => "    " ++ item ++ ",\n") ++ "]"

def entryText (key value : String) : String := key ++ " = " ++ value ++ "\n"

end RowTyping.Toml
