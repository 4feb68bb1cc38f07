import GridRobot.Decimal.Binary64

/-! The shortest decimal of a double: of the decimals that read back as the double,
those on the coarsest grid of a power of ten, and of these the nearest. It is
written in positions while its leading digit stands between the fifth place after
the point and the sixteenth before it, and with an exponent otherwise. -/
namespace GridRobot

structure Decimal where
  digits : Nat
  exponent : Int
  deriving DecidableEq, Repr

namespace Decimal

/-- The reals that round to a double, as three numerators over one denominator: the
lower end, the double itself, the upper end. The ends belong to it if its
significand is even. -/
structure Interval where
  low : Nat
  value : Nat
  high : Nat
  den : Nat
  closed : Bool
  deriving DecidableEq, Repr

def Binary64.interval (x : Binary64) : Interval :=
  let quarter (m : Nat) : Nat × Nat := Binary64.ratio ⟨m, x.exponent - 2⟩
  let below := if x.significand = 1 <<< 52 ∧ -1074 < x.exponent then 1 else 2
  { low := (quarter (4 * x.significand - below)).1
    value := (quarter (4 * x.significand)).1
    high := (quarter (4 * x.significand + 2)).1
    den := (quarter 0).2
    closed := x.significand % 2 == 0 }

namespace Interval

def holds (i : Interval) (num scale : Nat) : Bool :=
  if i.closed then i.low * scale ≤ num && num ≤ i.high * scale
  else i.low * scale < num && num < i.high * scale

/-- The multiple of `10 ^ power` in the interval that is nearest to the value, if
there is one. Only the two neighbours of the value need a look. -/
def onGrid? (i : Interval) (power : Int) : Option Nat :=
  let step := if 0 ≤ power then i.den * Nat.pow 10 power.toNat else i.den
  let scale := if 0 ≤ power then 1 else Nat.pow 10 (-power).toNat
  let down := i.value * scale / step
  let up := down + 1
  match 0 < down && i.holds (down * step) scale, i.holds (up * step) scale with
  | true, true =>
    let toDown := i.value * scale - down * step
    let toUp := up * step - i.value * scale
    some (if toDown < toUp then down else if toUp < toDown then up else down + down % 2)
  | true, false => some down
  | false, true => some up
  | false, false => none

end Interval

def powers : List Int := (List.range 633).map fun (n : Nat) => (308 : Int) - n

def shortest (x : Binary64) : Decimal :=
  (powers.findSome? fun p => (x.interval.onGrid? p).map (⟨·, p⟩)).getD ⟨0, 0⟩

structure Layout where
  lowest : Int
  highest : Int

def Layout.standard : Layout := ⟨-5, 15⟩

def zeros (n : Nat) : List Char := List.replicate n '0'

def write (l : Layout) (d : Decimal) : List Char :=
  let digits := Nat.toDigits 10 d.digits
  let leading := d.exponent + (digits.length : Int) - 1
  if l.lowest ≤ leading ∧ leading ≤ l.highest then
    if 0 ≤ d.exponent then digits ++ zeros d.exponent.toNat ++ ['.', '0']
    else if 0 ≤ leading then
      digits.take (leading.toNat + 1) ++ '.' :: digits.drop (leading.toNat + 1)
    else '0' :: '.' :: zeros ((-leading).toNat - 1) ++ digits
  else
    let mark := if leading < 0 then ['e', '-'] else ['e', '+']
    let fraction := if digits.length ≤ 1 then [] else '.' :: digits.drop 1
    digits.take 1 ++ fraction ++ mark ++ Nat.toDigits 10 leading.natAbs

def writeReal (negative : Bool) (x : Binary64) : List Char :=
  let body := if x.isZero then ['0', '.', '0'] else (shortest x).write .standard
  if negative then '-' :: body else body

end Decimal
end GridRobot
