/-! Double precision numbers without signs. A number is a significand times a power
of two. Every operation computes its exact ratio first and then takes the nearest
double, an even significand on a tie; beyond the largest double there is none. -/
namespace GridRobot.Decimal

structure Binary64 where
  significand : Nat
  exponent : Int
  deriving DecidableEq, Repr

def roundRatio (num den : Nat) : Nat :=
  let down := num / den
  let twice := 2 * (num % den)
  if twice < den then down
  else if den < twice then down + 1
  else down + down % 2

namespace Binary64

def zero : Binary64 := ⟨0, -1074⟩

def isZero (x : Binary64) : Bool := x.significand == 0

def ratio (x : Binary64) : Nat × Nat :=
  if 0 ≤ x.exponent then (x.significand <<< x.exponent.toNat, 1)
  else (x.significand, 1 <<< (-x.exponent).toNat)

def scaled (num den : Nat) (exponent : Int) : Nat × Nat :=
  if 0 ≤ exponent then (num, den <<< exponent.toNat)
  else (num <<< (-exponent).toNat, den)

/-- The exponent at which the ratio has a significand of 53 bits, or the least one. -/
def exponentFor (num den : Nat) : Int :=
  let guess := (num.log2 : Int) - den.log2 - 52
  let (n, d) := scaled num den guess
  max (if n < d <<< 52 then guess - 1 else guess) (-1074)

def nearest? (num den : Nat) : Option Binary64 :=
  if num = 0 then some zero
  else
    let exponent := exponentFor num den
    let (n, d) := scaled num den exponent
    let significand := roundRatio n d
    let rounded : Binary64 :=
      if significand = 1 <<< 53 then ⟨1 <<< 52, exponent + 1⟩ else ⟨significand, exponent⟩
    if 971 < rounded.exponent then none else some rounded

def mul? (x y : Binary64) : Option Binary64 :=
  nearest? (x.ratio.1 * y.ratio.1) (x.ratio.2 * y.ratio.2)

def div? (x y : Binary64) : Option Binary64 :=
  nearest? (x.ratio.1 * y.ratio.2) (x.ratio.2 * y.ratio.1)

def powerOfTen? (n : Nat) : Option Binary64 := nearest? (Nat.pow 10 n) 1

/-- A significand times a power of ten, by one multiplication or division where that
power of ten is a double, and by dividing off whole powers first where it is not. -/
def scaleByTen? (x : Binary64) (power : Int) : Option Binary64 :=
  if power < -308 then
    if x.isZero then some x
    else do
      let y ← x.div? (← powerOfTen? 308)
      scaleByTen? y (power + 308)
  else if power < 0 then do x.div? (← powerOfTen? (-power).toNat)
  else if power ≤ 308 then do x.mul? (← powerOfTen? power.toNat)
  else if x.isZero then some x
  else none
  termination_by (-power).toNat

end Binary64
end GridRobot.Decimal
