import RowTyping.Ty

namespace RowTyping.Ty

/-- The type that a text names, blanks at its ends aside. -/
def ofChars (text : List Char) : Except TypeError Ty :=
  let trimmed := Text.trim text
  match _ : Text.between? "Masked(" ")" trimmed with
  | some inner => (ofChars inner).bind mask
  | none =>
    match String.ofList trimmed with
    | "NA" | "na" => .ok .null
    | "string_view" => .ok .stringView
    | "owned_string" => .ok .ownedString
    | "Literal[str]" | "str_literal" => .ok .stringLiteral
    | spelling =>
      match "ext:".toList.isPrefixOf? trimmed with
      | some [] => .error (.unreadable spelling .externalName)
      | some name => .ok (.external (String.ofList name))
      | none => .primitive <$> Primitive.ofTrimmed trimmed
termination_by text.length
decreasing_by
  have shorter : trimmed.length ≤ text.length := Text.trim_length_le text
  have enclosed := Text.between?_length ‹Text.between? "Masked(" ")" trimmed = some inner›
  have opening : 0 < "Masked(".toList.length := by decide
  omega

def ofName (text : String) : Except TypeError Ty := ofChars text.toList

end RowTyping.Ty
