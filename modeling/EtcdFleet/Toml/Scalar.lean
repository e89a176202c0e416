import EtcdFleet.Time.Calendar
import EtcdFleet.Toml.Scanner

set_option autoImplicit false

/-!
# Numbers and times of TOML

Underscores may stand between digits. An integer fits 64 bits with a sign. A time is checked against
the calendar and held as an object of its own form, since documents have no times.
-/

namespace EtcdFleet.Toml

open Text Scanner

/-- Single underscores between digits. -/
def separated (isDigit : Char → Bool) : List Char → Bool
  | [] => false
  | [c] => isDigit c
  | c :: '_' :: rest => isDigit c && separated isDigit rest
  | c :: rest => isDigit c && separated isDigit rest

def digits (isDigit : Char → Bool) : Scanner (List Char) := do
  let run ← takeWhile fun c => isDigit c || c == '_'
  guard (separated isDigit run)
  return run.filter (· != '_')

def integerOf (value : Int) : Scanner Document := do
  guard (Int64.minValue.toInt ≤ value ∧ value ≤ Int64.maxValue.toInt)
  return .integer value

def isBinary (c : Char) : Bool := c == '0' || c == '1'

def isOctal (c : Char) : Bool := '0' ≤ c && c ≤ '7'

def isHexadecimal (c : Char) : Bool := (Text.hexDigit? c).isSome

/-- An integer in another base, which has no sign. -/
def basedInteger (letter : Char) (base : Nat) (isDigit : Char → Bool) : Scanner Document := do
  exactly ['0', letter]
  let run ← digits isDigit
  integerOf (run.foldl (fun value c => value * base + (Text.hexDigit? c).getD 0) 0 : Nat)

def sign : Scanner Bool := do
  if ← optionally ['-'] then return true
  discard (optionally ['+'])
  return false

def special : Scanner Document := do
  let negative ← sign
  let size : Float ←
    (do exactly ['i', 'n', 'f']; return 1.0 / 0.0) <|> (do exactly ['n', 'a', 'n']; return 0.0 / 0.0)
  return .number (.float (if negative then -size else size).toBits)

def exponent : Scanner Int := do
  exactly ['e'] <|> exactly ['E']
  let negative ← sign
  let size : Int := Nat.ofDigitChars 10 (← digits Char.isDigit) 0
  return if negative then -size else size

/-- A float above all that can be held is refused; one below all of them is minus infinity, and one
too close to zero is zero. -/
def floatOf (negative : Bool) (whole fraction : List Char) (power : Int) : Scanner Document := do
  let significand := Nat.ofDigitChars 10 (whole ++ fraction) 0
  let shift := power - fraction.length
  let size : Float :=
    if significand = 0 ∨ shift + (whole ++ fraction).length < -400 then 0
    else if 400 < shift then 1.0 / 0.0
    else Float.ofScientific significand (shift < 0) shift.natAbs
  guard (negative || !size.isInf)
  return .number (.float (if negative then -size else size).toBits)

/-- Decimal integers and floats; the integer part has no leading zero. -/
def decimalNumber : Scanner Document := do
  let negative ← sign
  let whole ← digits Char.isDigit
  guard (whole.length = 1 ∨ whole.head? ≠ some '0')
  if ← optionally ['.'] then
    let fraction ← digits Char.isDigit
    let power ← exponent <|> pure 0
    floatOf negative whole fraction power
  else
    match ← peek with
    | some 'e' | some 'E' => floatOf negative whole [] (← exponent)
    | _ =>
      let size : Int := Nat.ofDigitChars 10 whole 0
      integerOf (if negative then -size else size)

/-! ## Times -/

def field (width least greatest : Nat) : Scanner Unit := do
  let chars ← take width
  guard (chars.all Char.isDigit)
  let value := Nat.ofDigitChars 10 chars 0
  guard (least ≤ value ∧ value ≤ greatest)

def fieldValue (width least greatest : Nat) : Scanner Nat := ofFunction fun cs =>
  (field width least greatest cs).map fun ((), rest) => (Nat.ofDigitChars 10 (cs.take width) 0, rest)

def date : Scanner Unit := do
  let year ← fieldValue 4 0 9999
  exactly ['-']
  let month ← fieldValue 2 1 12
  exactly ['-']
  field 2 1 (Calendar.daysInMonth year month)

def clock : Scanner Unit := do
  field 2 0 23
  exactly [':']
  field 2 0 59
  exactly [':']
  field 2 0 60
  if ← optionally ['.'] then
    let run ← takeWhile Char.isDigit
    guard (!run.isEmpty)

def offset : Scanner Unit :=
  exactly ['Z'] <|> exactly ['z'] <|> do
    exactly ['+'] <|> exactly ['-']
    field 2 0 23
    exactly [':']
    field 2 0 59

def clockAfterDate : Scanner Unit := do
  exactly ['T'] <|> exactly ['t'] <|> exactly [' ']
  clock
  offset <|> pure ()

def time : Scanner Unit := (do date; clockAfterDate <|> pure ()) <|> clock

def timeDocument : Scanner Document := ofFunction fun cs =>
  (time cs).map fun ((), rest) =>
    (.object [("time", .text (String.ofList (cs.take (cs.length - rest.length))))], rest)

def boolean : Scanner Document :=
  (do exactly "true".toList; return .bool true) <|> (do exactly "false".toList; return .bool false)

def scalar : Scanner Document :=
  boolean <|> special <|> timeDocument <|> basedInteger 'x' 16 isHexadecimal <|>
    basedInteger 'o' 8 isOctal <|> basedInteger 'b' 2 isBinary <|> decimalNumber

end EtcdFleet.Toml
