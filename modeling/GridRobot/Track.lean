import GridRobot.Position

/-! Tracks. A track says for every cell of the grid whether the robot may stand on
it. All tracks are built from a predicate on positions, so that each operation is
described by what it does to `traversable`. -/
namespace GridRobot

structure Track where
  cells : Vector (Vector Bool Grid.cols) Grid.rows
  deriving DecidableEq, Repr

namespace Track

def ofFn (f : Position → Bool) : Track :=
  ⟨.ofFn fun r => .ofFn fun c => f ⟨UInt64.ofNat r, UInt64.ofNat c⟩⟩

def traversable (t : Track) (p : Position) : Bool :=
  if h : p.row.toNat < Grid.rows ∧ p.col.toNat < Grid.cols then
    (t.cells.get ⟨p.row.toNat, h.1⟩).get ⟨p.col.toNat, h.2⟩
  else false

def empty : Track := ofFn fun _ => false

def ofPositions (ps : List Position) : Track := ofFn fun p => ps.contains p

def toggle? (t : Track) (p : Position) : Option (Bool × Track) :=
  if p.inGrid then
    some (!t.traversable p, ofFn fun q => t.traversable q != (q == p))
  else none

def start (t : Track) : Position := (Grid.positions.find? t.traversable).getD .origin

def count (t : Track) : Nat := Grid.positions.countP t.traversable

end Track
end GridRobot
