/-! Text without terminal control. Control characters and the control sequences of terminals are
dropped; tabs, line breaks and form feeds stay. Such a blank suspends a sequence that it
stands in: what follows is plain text until the next control character. -/

namespace RowTyping.Text

/-- The control sequence that a character stands in. -/
inductive Sequence where
  | none
  | escape
  /-- After the escape character and marks that announce one more character. -/
  | marked
  /-- After the escape character and `[`, up to a letter. -/
  | control
  /-- After the escape character and `]`, up to a bell. -/
  | command
  /-- After the escape character and `P`, which announce a device string. -/
  | device
  /-- The numbers before a device string. -/
  | deviceNumbers
  /-- The marks before a device string. -/
  | deviceMarks
  /-- A string, up to its terminator. -/
  | string
deriving DecidableEq, Repr

def stringTerminator : UInt8 := 0x9C

def isVisible (c : Char) : Bool := ' ' ≤ c && c ≤ '~'

/-- The blanks among the control characters that text keeps. -/
def isKeptBlank (c : Char) : Bool := c == '\t' || c == '\n' || c == '\x0c' || c == '\r'

def isAscii (c : Char) : Bool := c.toNat < 0x80

namespace Sequence

/-- What a printable character makes of a sequence. -/
def afterVisible (sequence : Sequence) (c : Char) : Sequence :=
  match sequence with
  | .none => .none
  | .escape =>
    if c ≤ '/' then .marked
    else
      match c with
      | '[' => .control
      | ']' => .command
      | 'P' => .device
      | 'X' | '^' | '_' => .string
      | _ => .none
  | .marked => if c ≤ '/' then .marked else .none
  | .control => if c ≤ '?' then .control else .none
  | .command => .command
  | .device => if c ≤ '/' then .deviceMarks else if c ≤ '?' then .deviceNumbers else .string
  | .deviceNumbers => if c ≤ '/' then .deviceMarks else if c ≤ ';' then .deviceNumbers else .string
  | .deviceMarks => if c ≤ '/' then .deviceMarks else .string
  | .string => .string

/-- Whether a blank shows in the middle of a sequence. -/
def showsBlanks : Sequence → Bool
  | .none | .escape | .marked | .control => true
  | .command | .device | .deviceNumbers | .deviceMarks | .string => false

/-- What any other character makes of a sequence. -/
def afterHidden (sequence : Sequence) (c : Char) : Sequence :=
  match sequence with
  | .command => if c == '\x07' then .none else .command
  | .string => if (String.utf8EncodeChar c).contains stringTerminator then .none else .string
  | other => other

end Sequence

structure Reading where
  sequence : Sequence := .none
  suspended : Bool := false
deriving DecidableEq, Repr

/-- Reads one character: whether it is kept, and how reading goes on. -/
def Reading.advance (reading : Reading) (c : Char) : Bool × Reading :=
  if c == '\x1b' then (false, ⟨.escape, false⟩)
  else if c == '\x18' || c == '\x1a' then (false, {})
  else if reading.suspended || reading.sequence = .none then
    if !isAscii c then (true, {})
    else if isVisible c || isKeptBlank c then (true, reading)
    else (false, { reading with suspended := false })
  else if isVisible c then (false, ⟨reading.sequence.afterVisible c, false⟩)
  else if isKeptBlank c && reading.sequence.showsBlanks then
    (true, { reading with suspended := true })
  else (false, ⟨reading.sequence.afterHidden c, false⟩)

def keepVisible (reading : Reading) : List Char → List Char
  | [] => []
  | c :: rest =>
    let (kept, next) := reading.advance c
    if kept then c :: keepVisible next rest else keepVisible next rest

def withoutControls (text : List Char) : List Char := keepVisible {} text

end RowTyping.Text
