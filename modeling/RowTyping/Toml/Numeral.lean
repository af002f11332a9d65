import RowTyping.Toml.Reader
import RowTyping.Toml.Value

namespace RowTyping.Toml

open Reader

/-- Characters of a value that is not quoted. -/
def isBareChar (c : Char) : Bool :=
  c.isAlphanum || c == '+' || c == '-' || c == '_' || c == '.' || c == ':'

/-- Digits of a base, in which single underscores may stand between two digits. -/
def digitRun (isDigit : Char → Bool) : Reader (List Char) := do
  let first ← next isDigit
  let rest ← many (next isDigit <|> (do char '_'; next isDigit))
  return first :: rest

def digitValue (c : Char) : Nat :=
  if c.isDigit then c.toNat - '0'.toNat else c.toLower.toNat - 'a'.toNat + 10

def ofDigits (base : Nat) (digits : List Char) : Nat :=
  digits.foldl (fun value c => base * value + digitValue c) 0

/-- Whether a number is negative, by its optional sign. -/
def sign : Reader Bool := do
  match ← attempt (next fun c => c == '+' || c == '-') with
  | some c => return c == '-'
  | none => return false

/-- Decimal digits without a redundant leading zero. -/
def wholeDigits : Reader (List Char) := do
  let digits ← digitRun Char.isDigit
  if digits.head? = some '0' ∧ digits.length ≠ 1 then failure else return digits

def bounded (value : Int) : Reader Int :=
  if Int64.minValue.toInt ≤ value ∧ value ≤ Int64.maxValue.toInt then pure value else failure

def decimalInteger : Reader Int := do
  let negative ← sign
  let value := ofDigits 10 (← wholeDigits)
  bounded (if negative then -value else value)

/-- An unsigned integer of another base, marked by a lead. -/
def basedInteger (lead : String) (base : Nat) (isDigit : Char → Bool) : Reader Int := do
  text lead
  bounded (ofDigits base (← digitRun isDigit))

def isHexDigit (c : Char) : Bool := c.isDigit || ('a' ≤ c && c ≤ 'f') || ('A' ≤ c && c ≤ 'F')

def isOctalDigit (c : Char) : Bool := '0' ≤ c && c ≤ '7'

def isBinaryDigit (c : Char) : Bool := c == '0' || c == '1'

def integerReaders : List (Reader Int) :=
  [decimalInteger, basedInteger "0x" 16 isHexDigit, basedInteger "0o" 8 isOctalDigit,
    basedInteger "0b" 2 isBinaryDigit]

def integer? (input : List Char) : Option Int :=
  integerReaders.findSome? fun reader =>
    match reader input with
    | some (value, []) => some value
    | _ => none

/-- Digits of a decimal fraction and its power of ten. -/
structure Decimal where
  negative : Bool
  digits : Nat
  exponent : Int

/-- Whether a decimal rounds to an infinite binary float of 64 bits: it is at least the
largest finite one plus half a unit of its last place. -/
def Decimal.overflows (decimal : Decimal) : Bool :=
  let limit := (Nat.pow 2 54 - 1) * Nat.pow 2 970
  let magnitude := decimal.exponent + (Nat.toDigits 10 decimal.digits).length
  if decimal.digits = 0 ∨ magnitude < 300 then false
  else if 320 < magnitude then true
  else if 0 ≤ decimal.exponent then limit ≤ decimal.digits * Nat.pow 10 decimal.exponent.toNat
  else limit * Nat.pow 10 (-decimal.exponent).toNat ≤ decimal.digits

def fraction : Reader (List Char) := do
  char '.'
  digitRun Char.isDigit

def exponent : Reader Int := do
  let _ ← next fun c => c == 'e' || c == 'E'
  let negative ← sign
  let value := ofDigits 10 (← digitRun Char.isDigit)
  return if negative then -value else value

def decimalFloat : Reader Decimal := do
  let negative ← sign
  let whole ← wholeDigits
  let places ← attempt fraction
  let power ← attempt exponent
  if places.isNone ∧ power.isNone then failure
  else
    let places := places.getD []
    return ⟨negative, ofDigits 10 (whole ++ places), power.getD 0 - places.length⟩

def specialFloat : Reader Unit := do
  let _ ← sign
  text "inf" <|> text "nan"

/-- Whether a whole text spells a float. A positive float must not round to infinity. -/
def isFloat (input : List Char) : Bool :=
  match decimalFloat input with
  | some (decimal, []) => decimal.negative || !decimal.overflows
  | _ => accepts specialFloat input

/-- A number of exactly so many decimal digits within bounds. -/
def fixedNumber (digits low high : Nat) : Reader Nat := fun input =>
  let lead := input.take digits
  let value := ofDigits 10 lead
  if lead.length = digits ∧ lead.all Char.isDigit ∧ low ≤ value ∧ value ≤ high then
    some (value, input.drop digits)
  else none

def isLeapYear (year : Nat) : Bool := year % 4 = 0 && (year % 100 ≠ 0 || year % 400 = 0)

def daysInMonth (year month : Nat) : Nat :=
  match month with
  | 2 => if isLeapYear year then 29 else 28
  | 4 | 6 | 9 | 11 => 30
  | _ => 31

def date : Reader Unit := do
  let year ← fixedNumber 4 0 9999
  char '-'
  let month ← fixedNumber 2 1 12
  char '-'
  let _ ← fixedNumber 2 1 (daysInMonth year month)

def time : Reader Unit := do
  let _ ← fixedNumber 2 0 23
  char ':'
  let _ ← fixedNumber 2 0 59
  char ':'
  let _ ← fixedNumber 2 0 60
  let _ ← attempt (do char '.'; let _ ← next Char.isDigit; let _ ← run Char.isDigit)

def offset : Reader Unit := do
  match ← next fun c => c == 'Z' || c == 'z' || c == '+' || c == '-' with
  | '+' | '-' =>
    let _ ← fixedNumber 2 0 23
    char ':'
    let _ ← fixedNumber 2 0 59
  | _ => pure ()

def timeWithOffset : Reader Unit := do
  time
  let _ ← attempt offset

def joinedDateTime : Reader Unit := do
  date
  let _ ← next fun c => c == 'T' || c == 't'
  timeWithOffset

/-- The time that stands a space after a date. -/
def spacedTime : Reader String := do
  char ' '
  let clock ← run isBareChar
  if accepts timeWithOffset clock then return String.ofList (' ' :: clock) else failure

def bareValue : Reader Value := do
  let word ← run isBareChar
  let spelling := String.ofList word
  if spelling = "true" then return .boolean true
  else if spelling = "false" then return .boolean false
  else if accepts date word then
    return .dateTime (spelling ++ ((← attempt spacedTime).getD ""))
  else if accepts time word || accepts joinedDateTime word then return .dateTime spelling
  else
    match integer? word with
    | some value => return .integer value
    | none => if isFloat word then return .float spelling else failure

end RowTyping.Toml
