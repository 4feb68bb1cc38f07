import GridRobot.Json.Problem

/-! JSON numbers. A number is scanned into its parts first. Read as a value it is a
natural number, a negative integer or a real; reading keeps as many leading digits as
fit into a machine word and turns the rest into a power of ten. A number that is only
passed over has no range. -/
namespace GridRobot.Json

structure Numeral where
  negative : Bool
  whole : List Char
  fraction : List Char
  power : Bool × List Char
  deriving DecidableEq, Repr

/-- What is left of a text where a numeral in it breaks off: at its end, or at a
character that cannot stand there. -/
abbrev Broken := List Char

def digitsOf (cs : List Char) : List Char := cs.takeWhile Char.isDigit
def afterDigits (cs : List Char) : List Char := cs.dropWhile Char.isDigit

def someDigits (cs : List Char) : Except Broken (List Char × List Char) :=
  match digitsOf cs with
  | [] => .error cs
  | d :: ds => .ok (d :: ds, afterDigits cs)

def scanWhole (cs : List Char) : Except Broken (List Char × List Char) :=
  match cs with
  | '0' :: rest =>
    match rest with
    | d :: _ => if d.isDigit then .error rest else .ok (['0'], rest)
    | [] => .ok (['0'], rest)
  | _ => someDigits cs

def scanFraction (cs : List Char) : Except Broken (List Char × List Char) :=
  match cs with
  | '.' :: rest => someDigits rest
  | _ => .ok ([], cs)

def scanSign (cs : List Char) : Bool × List Char :=
  match cs with
  | '+' :: rest => (false, rest)
  | '-' :: rest => (true, rest)
  | _ => (false, cs)

def scanPower (cs : List Char) : Except Broken ((Bool × List Char) × List Char) :=
  match cs with
  | c :: rest =>
    if c = 'e' ∨ c = 'E' then
      (someDigits (scanSign rest).2).map fun (ds, after) => (((scanSign rest).1, ds), after)
    else .ok ((false, []), cs)
  | [] => .ok ((false, []), cs)

def scanNumeral (cs : List Char) : Except Broken (Numeral × List Char) := do
  let (negative, afterSign) := match cs with
    | '-' :: rest => (true, rest)
    | _ => (false, cs)
  let (whole, afterWhole) ← scanWhole afterSign
  let (fraction, afterFraction) ← scanFraction afterWhole
  let (power, after) ← scanPower afterFraction
  return (⟨negative, whole, fraction, power⟩, after)

theorem someDigitsShorter {cs ds rest : List Char} (h : someDigits cs = .ok (ds, rest)) :
    rest.length < cs.length := by
  unfold someDigits at h
  split at h
  · cases h
  · rename_i d ds' found
    have whole :=
      congrArg List.length (List.takeWhile_append_dropWhile (p := Char.isDigit) (l := cs))
    rw [List.length_append, show cs.takeWhile Char.isDigit = d :: ds' from found] at whole
    cases h; simp only [List.length_cons] at whole; simp only [afterDigits]; omega

theorem scanWholeShorter {cs ds rest : List Char} (h : scanWhole cs = .ok (ds, rest)) :
    rest.length < cs.length := by
  unfold scanWhole at h
  split at h
  · split at h
    · split at h
      · cases h
      · cases h; simp
    · cases h; simp
  · exact someDigitsShorter h

theorem scanFractionLe {cs ds rest : List Char} (h : scanFraction cs = .ok (ds, rest)) :
    rest.length ≤ cs.length := by
  unfold scanFraction at h
  split at h
  · have := someDigitsShorter h; simp only [List.length_cons]; omega
  · cases h; simp

theorem scanSignLe (cs : List Char) : (scanSign cs).2.length ≤ cs.length := by
  unfold scanSign; split <;> simp

theorem scanPowerLe {cs rest : List Char} {p : Bool × List Char}
    (h : scanPower cs = .ok (p, rest)) : rest.length ≤ cs.length := by
  unfold scanPower at h
  split at h
  · rename_i c tail
    split at h
    · cases hd : someDigits (scanSign tail).2 with
      | error f => simp [hd, Except.map] at h
      | ok r =>
        have := someDigitsShorter hd
        have := scanSignLe tail
        simp only [hd, Except.map] at h
        cases h; simp only [List.length_cons]; omega
    · cases h; simp
  · cases h; simp

theorem scanNumeralShorter {cs rest : List Char} {n : Numeral}
    (h : scanNumeral cs = .ok (n, rest)) : rest.length < cs.length := by
  unfold scanNumeral at h
  split at h
  rename_i minus afterSign sign
  have before : afterSign.length ≤ cs.length := by
    split at sign <;> cases sign <;> simp
  cases hw : scanWhole afterSign with
  | error f => simp [hw, bind, Except.bind] at h
  | ok w =>
    cases hf : scanFraction w.2 with
    | error f => simp [hw, hf, bind, Except.bind] at h
    | ok f =>
      cases hp : scanPower f.2 with
      | error p => simp [hw, hf, hp, bind, Except.bind] at h
      | ok p =>
        have := scanWholeShorter hw
        have := scanFractionLe hf
        have := scanPowerLe hp
        simp only [hw, hf, hp, bind, Except.bind, pure, Except.pure] at h
        cases h; omega

inductive Number where
  | natural (n : UInt64)
  | negative (magnitude : Nat)
  | real (minus : Bool) (magnitude : Decimal.Binary64)
  deriving DecidableEq, Repr

def Number.found : Number → Found
  | natural n => .integer n.toNat
  | negative n => .integer (-(n : Int))
  | real minus x => .real minus x

def wordLimit : Nat := UInt64.size

def gather (n : Nat) : List Char → Nat × List Char
  | [] => (n, [])
  | d :: ds =>
    let next := n * 10 + (d.toNat - '0'.toNat)
    if next < wordLimit then gather next ds else (n, d :: ds)

def digitsValue (ds : List Char) : Nat := ds.foldl (fun n d => n * 10 + (d.toNat - '0'.toNat)) 0

namespace Numeral

def isInteger (n : Numeral) : Bool := n.fraction.isEmpty && n.power.2.isEmpty

def powerValue (n : Numeral) : Int :=
  if n.power.1 then -(digitsValue n.power.2 : Int) else digitsValue n.power.2

def parts (n : Numeral) : Nat × Int :=
  let (whole, dropped) := gather 0 n.whole
  let (digits, left) := gather whole n.fraction
  (digits, (dropped.length : Int) - ((n.fraction.length - left.length : Nat) : Int) + n.powerValue)

def longestPower : Nat := 1 <<< 31 - 1

def unread (power : Nat) : List Char → List Char
  | [] => []
  | d :: ds =>
    let next := power * 10 + (d.toNat - '0'.toNat)
    if longestPower < next then ds else unread next ds

def real (n : Numeral) (after : List Char) : Except Flaw Number :=
  match (Decimal.Binary64.nearest? n.parts.1 1).bind (·.scaleByTen? n.parts.2) with
  | some x => .ok (.real n.negative x)
  | none => .error (.malformed .numberOutOfRange 0 (unread 0 n.power.2 ++ after))

/-- The value of a numeral, given the text after it. Integers are exact within the
machine words; zero with a minus sign is a real. -/
def value (n : Numeral) (after : List Char) : Except Flaw Number :=
  let whole := digitsValue n.whole
  if n.isInteger && !n.negative && whole < wordLimit then .ok (.natural (UInt64.ofNat whole))
  else if n.isInteger && n.negative && 0 < whole && whole ≤ wordLimit / 2 then .ok (.negative whole)
  else n.real after

end Numeral

namespace Broken

def skippedFlaw (left : Broken) : Flaw := .malformed .invalidNumber 1 left

/-- As a value it is malformed, unless the text ends. -/
def flaw (left : Broken) : Flaw :=
  if left.isEmpty then .ended .value else skippedFlaw left

end Broken

end GridRobot.Json
