import EtcdFleet.Document
import EtcdFleet.Text.Numeral

set_option autoImplicit false

/-!
# Numbers as documents write them

A numeral without a fraction and an exponent is an integer where it fits 64 bits, except that minus
zero is a float. Every other numeral is a float: the leading digits that fit an unsigned 64 bit word
are rounded once, and the power of ten is applied to that in a second rounding. A float too large to
be held is no number; one too small is zero.
-/

namespace EtcdFleet

structure Numeral where
  negative : Bool
  whole : List Char
  fraction : Option (List Char)
  exponent : Option (Bool × List Char)

namespace Numeral

def digitRun (cs : List Char) : List Char × List Char :=
  (cs.takeWhile Char.isDigit, cs.dropWhile Char.isDigit)

def digitRun? (cs : List Char) : Option (List Char × List Char) :=
  if (digitRun cs).1.isEmpty then none else some (digitRun cs)

/-- The integer part has no leading zero. -/
def whole? (cs : List Char) : Option (List Char × List Char) :=
  match digitRun? cs with
  | some ('0' :: _ :: _, _) => none
  | run => run

def fraction? : List Char → Option (Option (List Char) × List Char)
  | '.' :: cs => (digitRun? cs).map fun (digits, rest) => (some digits, rest)
  | cs => some (none, cs)

def exponentDigits? (negative : Bool) (cs : List Char) :
    Option (Option (Bool × List Char) × List Char) :=
  (digitRun? cs).map fun (digits, rest) => (some (negative, digits), rest)

def exponent? : List Char → Option (Option (Bool × List Char) × List Char)
  | [] => some (none, [])
  | c :: cs =>
    if c = 'e' ∨ c = 'E' then
      match cs with
      | '+' :: digits => exponentDigits? false digits
      | '-' :: digits => exponentDigits? true digits
      | digits => exponentDigits? false digits
    else some (none, c :: cs)

def scan? (cs : List Char) : Option (Numeral × List Char) := do
  let negative := cs.head? == some '-'
  let (whole, rest) ← whole? (if negative then cs.tail else cs)
  let (fraction, rest) ← fraction? rest
  let (exponent, rest) ← exponent? rest
  return (⟨negative, whole, fraction, exponent⟩, rest)

/-- Appends digits to a number while it fits an unsigned 64 bit word; the digits left over. -/
def absorb (significand : Nat) : List Char → Nat × List Char
  | [] => (significand, [])
  | c :: cs =>
    let next := significand * 10 + (c.toNat - '0'.toNat)
    if next < UInt64.size then absorb next cs else (significand, c :: cs)

/-- Powers of ten that are held, each correctly rounded. -/
def tenTo (power : Nat) : Float := Float.ofScientific 1 false power

/-- Divides by a power of ten in steps that are held; once nothing is left, the rest is skipped. -/
def scaleDown (value : Float) (power : Nat) : Float :=
  if power ≤ 308 then value / tenTo power
  else if value == 0 then value
  else scaleDown (value / tenTo 308) (power - 308)
termination_by power

def scaleUp? (value : Float) (power : Nat) : Option Float :=
  if power ≤ 308 then
    let scaled := value * tenTo power
    if scaled.isInf then none else some scaled
  else if value == 0 then some value
  else none

def float? (numeral : Numeral) : Option Float :=
  let (leading, dropped) := absorb 0 numeral.whole
  let digits := numeral.fraction.getD []
  let (significand, unread) := absorb leading digits
  let shift : Int := dropped.length - (digits.length - unread.length : Nat)
  let written : Int :=
    match numeral.exponent with
    | none => 0
    | some (negative, digits) =>
      let size : Int := Nat.ofDigitChars 10 digits 0
      if negative then -size else size
  let value := Float.ofNat significand
  let power := shift + written
  let magnitude := if power < 0 then some (scaleDown value power.natAbs) else scaleUp? value power.natAbs
  magnitude.map fun size => if numeral.negative then -size else size

def toNumber? (numeral : Numeral) : Option Number :=
  let size := Nat.ofDigitChars 10 numeral.whole 0
  let plain := numeral.fraction.isNone && numeral.exponent.isNone
  if plain && !numeral.negative && size < UInt64.size then some (.integer size)
  else if plain && numeral.negative && 0 < size && Int64.minValue.toInt ≤ -size then
    some (.integer (-size))
  else numeral.float?.map fun value => .float value.toBits

end Numeral
end EtcdFleet
