/-! Arithmetic with its limits checked. Words wrap round in silence; here a calculation is done on
numbers, and one that its word cannot hold, or a difference below zero, ends it with the reason. What
comes out of such a calculation is exact. -/
namespace GridRobot

inductive Overflow where
  | above | below
  deriving DecidableEq, Repr

namespace Overflow

def hold (size n : Nat) : Except Overflow Nat := if n < size then .ok n else .error .above

def minus (m n : Nat) : Except Overflow Nat := if n ≤ m then .ok (m - n) else .error .below

theorem holdOk {size n : Nat} (room : n < size) : hold size n = .ok n := if_pos room

theorem minusOk {m n : Nat} (enough : n ≤ m) : minus m n = .ok (m - n) := if_pos enough

end Overflow
end GridRobot
