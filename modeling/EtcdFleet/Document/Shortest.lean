set_option autoImplicit false

/-!
# The shortest decimal of a binary64 number

A finite number is a significand times a power of two, and the reals that round to it form an
interval around it. The shortest decimal is the one with the fewest digits in that interval, and of
those the nearest to the number. Everything is compared in exact integer arithmetic.
-/

namespace EtcdFleet

structure Binary64 where
  significand : Nat
  exponent : Int
  /-- Half the distance to the next smaller number is a quarter of a unit instead of a half. -/
  narrowBelow : Bool

namespace Binary64

def ofBits (bits : UInt64) : Binary64 :=
  let fraction : Nat := bits.toNat % (1 <<< 52)
  let biased : Nat := (bits.toNat >>> 52) % (1 <<< 11)
  if biased = 0 then ⟨fraction, -1074, false⟩
  else ⟨(1 <<< 52) + fraction, biased - 1075, fraction = 0 && 1 < biased⟩

/-- Numerators over a common denominator: four times the number, and the ends of its interval. -/
structure Interval where
  low : Nat
  value : Nat
  high : Nat
  denominator : Nat
  closed : Bool

def interval (number : Binary64) : Interval :=
  let quarter := number.exponent - 2
  let scale := 1 <<< quarter.toNat
  let value := 4 * number.significand
  { low := (value - if number.narrowBelow then 1 else 2) * scale
    value := value * scale
    high := (value + 2) * scale
    denominator := 1 <<< (-quarter).toNat
    closed := number.significand % 2 = 0 }

def Interval.onGrid (interval : Interval) (power : Int) : Interval :=
  let up := Nat.pow 10 (-power).toNat
  { interval with
    low := interval.low * up
    value := interval.value * up
    high := interval.high * up
    denominator := interval.denominator * Nat.pow 10 power.toNat }

def Interval.holds (interval : Interval) (count : Nat) : Bool :=
  let point := count * interval.denominator
  if interval.closed then interval.low ≤ point && point ≤ interval.high
  else interval.low < point && point < interval.high

/-- The nearer of the two grid points around the number that lie in its interval; of two equally
near ones the even one. -/
def Interval.nearest? (interval : Interval) : Option Nat :=
  let below := interval.value / interval.denominator
  let rest := interval.value % interval.denominator
  match interval.holds below, interval.holds (below + 1) with
  | true, true =>
    if 2 * rest < interval.denominator then some below
    else if interval.denominator < 2 * rest then some (below + 1)
    else some (if below % 2 = 0 then below else below + 1)
  | true, false => some below
  | false, true => some (below + 1)
  | false, false => none

def leadingPower (interval : Interval) : Nat → Int → Int
  | 0, power => power
  | steps + 1, power =>
    let grid := interval.onGrid power
    if grid.denominator ≤ grid.value then power else leadingPower interval steps (power - 1)

def stripped : Nat → Nat → Int → Nat × Int
  | 0, digits, power => (digits, power)
  | steps + 1, digits, power =>
    if digits ≠ 0 ∧ digits % 10 = 0 then stripped steps (digits / 10) (power + 1)
    else (digits, power)

def searched (interval : Interval) : Nat → Int → Nat × Int
  | 0, power => (((interval.onGrid power).value / (interval.onGrid power).denominator), power)
  | steps + 1, power =>
    match (interval.onGrid power).nearest? with
    | some digits => stripped 20 digits power
    | none => searched interval steps (power - 1)

def shortest (number : Binary64) : Nat × Int :=
  searched number.interval 17 (leadingPower number.interval 640 309)

end Binary64
end EtcdFleet
