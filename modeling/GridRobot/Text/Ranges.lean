/-! Sorted tables of code point ranges, and looking a character up in one by halving
the part of the table that may still hold it. -/
namespace GridRobot.Text

/-- The place of the last range that does not begin after `n`, among the `2 ^ k` ranges
from a place on. -/
def seek (table : Array (Nat × Nat)) (n : Nat) : Nat → Nat → Nat
  | 0, place => place
  | k + 1, place =>
    match table[place + 1 <<< k]? with
    | some (low, _) => seek table n k (if low ≤ n then place + 1 <<< k else place)
    | none => seek table n k place

def inRanges (table : Array (Nat × Nat)) (c : Char) : Bool :=
  match table[seek table c.toNat (table.size.log2 + 1) 0]? with
  | some (low, high) => low ≤ c.toNat && c.toNat ≤ high
  | none => false

end GridRobot.Text
