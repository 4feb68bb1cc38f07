import GridRobot.Heading

/-! Positions. A cell is named by a row and a column, both machine words, so that a
position may also lie far outside the grid. The grid itself has four rows of five
cells, listed here in reading order. -/
namespace GridRobot

namespace Grid

def rows : Nat := 4
def cols : Nat := 5

end Grid

structure Position where
  row : UInt64
  col : UInt64
  deriving DecidableEq, Repr

namespace Position

def origin : Position := ⟨0, 0⟩

def inGrid (p : Position) : Bool := p.row.toNat < Grid.rows && p.col.toNat < Grid.cols

/-- The neighbour in a direction, where the words can name it: there is none above
row zero or left of column zero. -/
def ahead? (p : Position) : Heading → Option Position
  | .north => if p.row = 0 then none else some ⟨p.row - 1, p.col⟩
  | .east => some ⟨p.row, p.col + 1⟩
  | .south => some ⟨p.row + 1, p.col⟩
  | .west => if p.col = 0 then none else some ⟨p.row, p.col - 1⟩

def step? (p : Position) (h : Heading) : Option Position := (p.ahead? h).filter inGrid

def text (p : Position) : String :=
  "(" ++ toString p.row.toNat ++ ", " ++ toString p.col.toNat ++ ")"

end Position

def Grid.positions : List Position :=
  (List.range Grid.rows).flatMap fun r =>
    (List.range Grid.cols).map fun c => ⟨UInt64.ofNat r, UInt64.ofNat c⟩

end GridRobot
