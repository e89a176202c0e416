import EtcdFleet.Text.Blank
import EtcdFleet.Text.Scanner
import EtcdFleet.Time.Calendar

set_option autoImplicit false

/-!
# Instants and their RFC 3339 texts

An instant is a number of seconds since the first of January 1970 in UTC and a fraction; in a leap
second the fraction goes on past the whole. The exact form has fixed widths and nothing between its
parts. The free form also takes white space between them, shorter or signed numbers, and `UTC`.
-/

namespace EtcdFleet

open Calendar

structure Instant where
  seconds : Int
  /-- Below two thousand million; from one thousand million on in a leap second. -/
  nanos : Nat
  deriving DecidableEq

structure TimeFields where
  date : Date
  hour : Nat
  minute : Nat
  second : Nat
  nanos : Nat
  offset : Int

namespace Instant

def daySeconds : Int := 86400

def secondNanos : Nat := 1000000000

def hasYear (year : Int) : Bool := -262143 ≤ year && year ≤ 262142

def date (instant : Instant) : Date := .ofDayNumber (instant.seconds / daySeconds)

def ofFields? (fields : TimeFields) : Option Instant := do
  guard (hasYear fields.date.year && fields.date.isValid)
  guard (fields.hour ≤ 23 ∧ fields.minute ≤ 59 ∧ fields.second ≤ 60)
  guard (fields.offset.natAbs < 86400)
  let second := min fields.second 59
  let wall : Int := fields.date.dayNumber * daySeconds +
    (fields.hour * 3600 + fields.minute * 60 + second : Nat)
  let nanos := if fields.second = 60 then fields.nanos + secondNanos else fields.nanos
  let instant : Instant := ⟨wall - fields.offset, nanos⟩
  guard (hasYear instant.date.year)
  return instant

/-! ## Writing -/

def padded (width n : Nat) : List Char :=
  let digits := Nat.toDigits 10 n
  List.replicate (width - digits.length) '0' ++ digits

/-- A year that does not have four digits is written with its sign. -/
def yearChars (year : Int) : List Char :=
  if 0 ≤ year ∧ year ≤ 9999 then padded 4 year.natAbs
  else (if year < 0 then '-' else '+') :: padded 4 year.natAbs

/-- As few of 0, 3, 6 and 9 digits as keep the fraction. -/
def fractionChars (nanos : Nat) : List Char :=
  if nanos = 0 then []
  else if nanos % 1000000 = 0 then '.' :: padded 3 (nanos / 1000000)
  else if nanos % 1000 = 0 then '.' :: padded 6 (nanos / 1000)
  else '.' :: padded 9 nanos

/-- A leap second is the sixtieth of its minute. -/
def wholeChars (instant : Instant) : List Char :=
  let date := instant.date
  let second := (instant.seconds % daySeconds).toNat
  yearChars date.year ++ ['-'] ++ padded 2 date.month ++ ['-'] ++ padded 2 date.day ++ ['T'] ++
    padded 2 (second / 3600) ++ [':'] ++ padded 2 (second / 60 % 60) ++ [':'] ++
    padded 2 (second % 60 + instant.nanos / secondNanos)

def toText (instant : Instant) : String :=
  String.ofList (instant.wholeChars ++ fractionChars (instant.nanos % secondNanos) ++ ['Z'])

def toSecondText (instant : Instant) : String := String.ofList (instant.wholeChars ++ ['Z'])

/-! ## Reading -/

open Text Scanner

def number (least most : Nat) : Scanner Nat := ofFunction fun cs =>
  let digits := (cs.takeWhile Char.isDigit).take most
  if least ≤ digits.length ∧ digits ≠ [] then
    some (Nat.ofDigitChars 10 digits 0, cs.drop digits.length)
  else none

/-- The digits after the point; those after the ninth do not count. -/
def fraction : Scanner Nat := do
  if ← optionally ['.'] then
    let digits ← Scanner.takeWhile Char.isDigit
    guard (!digits.isEmpty)
    let kept := digits.take 9
    return Nat.ofDigitChars 10 (kept ++ List.replicate (9 - kept.length) '0') 0
  else return 0

def dateSeparator : Scanner Unit := exactly ['T'] <|> exactly ['t'] <|> exactly [' ']

/-- The hyphen, or the sign that is made for it. -/
def isNegative : Scanner Bool :=
  (do exactly ['+']; return false) <|> (do exactly ['-']; return true) <|>
    (do exactly ['\u2212']; return true)

def twoDigits : Scanner Nat := number 2 2

def offset (between : Scanner Unit) : Scanner Int :=
  (do exactly ['Z'] <|> exactly ['z']; return 0) <|> do
    let negative ← isNegative
    let hours ← twoDigits
    between
    let minutes ← twoDigits
    guard (minutes ≤ 59)
    let size : Int := (hours * 3600 + minutes * 60 : Nat)
    return if negative then -size else size

def exactTime : Scanner TimeFields := do
  let year ← number 4 4
  exactly ['-']
  let month ← twoDigits
  exactly ['-']
  let day ← twoDigits
  dateSeparator
  let hour ← twoDigits
  exactly [':']
  let minute ← twoDigits
  exactly [':']
  let second ← twoDigits
  let nanos ← fraction
  let offset ← offset (exactly [':'])
  atEnd
  return ⟨⟨year, month, day⟩, hour, minute, second, nanos, offset⟩

def blanks : Scanner Unit := discard (Scanner.takeWhile isBlank)

def freeNumber (most : Nat) : Scanner Nat := do
  blanks
  number 1 most

/-- Without a sign a year has at most four digits. -/
def freeYear : Scanner Int := do
  blanks
  let size := (ofFunction fun cs => number 1 cs.length cs : Scanner Nat)
  match ← peek with
  | some '-' => exactly ['-']; return -(← size)
  | some '+' => exactly ['+']; return ← size
  | _ => return ← number 1 4

def universalWord : Scanner Unit := do
  let word ← take 3
  guard (word.map Char.toUpper = ['U', 'T', 'C'])

def freeTime : Scanner TimeFields := do
  let year ← freeYear
  blanks
  exactly ['-']
  let month ← freeNumber 2
  blanks
  exactly ['-']
  let day ← freeNumber 2
  dateSeparator
  let hour ← freeNumber 2
  blanks
  exactly [':']
  let minute ← freeNumber 2
  blanks
  exactly [':']
  let second ← freeNumber 2
  let nanos ← fraction
  blanks
  let offset ← (do universalWord; return 0) <|>
    offset (discard (Scanner.takeWhile fun c => c == ':' || isBlank c))
  blanks
  atEnd
  return ⟨⟨year, month, day⟩, hour, minute, second, nanos, offset⟩

def read? (form : Scanner TimeFields) (text : String) : Option Instant :=
  (form.run? text.toList).bind fun (fields, _) => ofFields? fields

def ofExactText? : String → Option Instant := read? exactTime

def ofFreeText? : String → Option Instant := read? freeTime

end Instant
end EtcdFleet
