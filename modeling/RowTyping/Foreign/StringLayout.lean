/-! The two memory layouts of strings that foreign routines receive by address. A view has the
fields `data`, `bytes` and `length` and borrows its text; an owned string has the fields `data`,
`bytes` and `size` and holds a buffer. Sizes are 32-bit fields, so a longer text has no layout. -/

namespace RowTyping.Foreign

inductive LayoutError where
  | tooLong (bytes : Nat)
deriving DecidableEq, Repr

def LayoutError.message : LayoutError → String
  | .tooLong bytes => s!"String of {bytes} bytes exceeds the 32-bit size field"

def maxSize : Nat := Nat.pow 2 31 - 1

def sizeField (bytes : Nat) : Except LayoutError Int32 :=
  if bytes ≤ maxSize then .ok (Int32.ofNat bytes) else .error (.tooLong bytes)

inductive Content where
  | text (value : String)
  /-- A number of NUL characters. -/
  | zeros (count : Nat)
deriving DecidableEq, Repr

namespace Content

def value : Content → String
  | .text value => value
  | .zeros count => String.ofList (List.replicate count '\x00')

/-- The number of bytes in UTF-8, a NUL being one byte. -/
def byteSize : Content → Nat
  | .text value => value.utf8ByteSize
  | .zeros count => count

end Content

/-- Text in a buffer with room for at least `reserved` bytes. -/
structure Buffer where
  content : Content
  reserved : Nat := 0
deriving DecidableEq, Repr

namespace Buffer

def capacity (buffer : Buffer) : Nat := max buffer.reserved buffer.content.byteSize

def shrunk (buffer : Buffer) : Nat := buffer.content.byteSize

end Buffer

/-- The text that the first bytes of stored text spell, if they spell one. -/
def spelled (stored : String) (bytes : Int32) : Option String :=
  String.fromUTF8? (stored.toByteArray.extract 0 bytes.toInt.toNat)

/-- A borrowed text, with its number of characters once that has been counted. -/
structure StringView where
  text : String
  bytes : Int32
  length : Int32
deriving DecidableEq, Repr

namespace StringView

/-- The `length` of a view whose characters have not been counted. -/
def unknownLength : Int32 := -1

def layoutSize : Nat := 16

def of (content : Content) : Except LayoutError StringView := do
  let bytes ← sizeField content.byteSize
  return ⟨content.value, bytes, unknownLength⟩

def isCounted (view : StringView) : Bool := view.length ≠ unknownLength

/-- The text of as many bytes as the size field says. -/
def asText (view : StringView) : String := (spelled view.text view.bytes).getD ""

/-- The number of characters, and the view that remembers it. -/
def count (view : StringView) : Int32 × StringView :=
  if view.isCounted then (view.length, view)
  else
    let length := Int32.ofNat view.asText.length
    (length, { view with length })

end StringView

structure OwnedString where
  text : String
  bytes : Int32
  capacity : Int32
deriving DecidableEq, Repr

namespace OwnedString

def layoutSize : Nat := 16

def empty : OwnedString := ⟨"", 0, 0⟩

/-- Takes over a buffer. One whose capacity does not fit the field is shrunk to its text first. -/
def ofBuffer (buffer : Buffer) : Except LayoutError OwnedString := do
  let bytes ← sizeField buffer.content.byteSize
  let capacity ← sizeField (if buffer.capacity ≤ maxSize then buffer.capacity else buffer.shrunk)
  return ⟨buffer.content.value, bytes, capacity⟩

def asText (owned : OwnedString) : String := (spelled owned.text owned.bytes).getD ""

/-- A copy of the text of a view, in a buffer with whatever room was reserved for it. -/
def ofView (view : StringView) (reserved : Nat := 0) : Except LayoutError OwnedString :=
  ofBuffer { content := .text view.asText, reserved }

def view (owned : OwnedString) : Except LayoutError StringView :=
  StringView.of (.text owned.asText)

end OwnedString

end RowTyping.Foreign
