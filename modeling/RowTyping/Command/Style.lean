namespace RowTyping.Command

inductive Color where
  | green
  | cyan
deriving DecidableEq, Repr

def Color.code : Color → String
  | .green => "\x1b[32m"
  | .cyan => "\x1b[36m"

structure Style where
  color : Option Color := none
  bold : Bool := false
deriving DecidableEq, Repr

def Style.reset : String := "\x1b[0m"

def Style.codes (style : Style) : String :=
  Style.reset ++ (if style.bold then "\x1b[1m" else "") ++ (style.color.map Color.code).getD ""

/-- A piece of output in one style, or in none. -/
structure Span where
  text : String
  style : Option Style := none
deriving DecidableEq, Repr

namespace Span

def plain (text : String) : Span := { text }

def newline : Span := plain "\n"

/-- What matters most in an answer. -/
def success (text : String) : Span := ⟨text, some { color := some .green, bold := true }⟩

def info (text : String) : Span := ⟨text, some { color := some .cyan }⟩

def bold (text : String) : Span := ⟨text, some { bold := true }⟩

/-- A line with a name and its value. -/
def field (label value : String) : List Span := [info label, plain ": ", bold value, newline]

def render (colored : Bool) (span : Span) : String :=
  match colored, span.style with
  | true, some style => style.codes ++ span.text ++ Style.reset
  | _, _ => span.text

end Span

end RowTyping.Command
