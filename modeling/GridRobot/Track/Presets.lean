import GridRobot.Track

/-! The three built-in tracks. -/
namespace GridRobot.Track

private def ofPairs (ps : List (UInt64 × UInt64)) : Track :=
  ofPositions (ps.map fun (r, c) => ⟨r, c⟩)

def corner : Track :=
  ofPairs [(0, 0), (0, 1), (0, 2), (0, 3), (0, 4), (1, 4), (2, 4), (3, 4)]

def hook : Track :=
  ofPairs [(3, 0), (2, 0), (1, 0), (0, 0), (0, 1), (0, 2), (0, 3), (0, 4)]

def staircase : Track :=
  ofPairs [(0, 0), (0, 1), (1, 1), (1, 2), (2, 2), (2, 3), (3, 3), (3, 4)]

def presets : Vector Track 3 := #v[corner, hook, staircase]

def preset? (index : UInt64) : Option Track := presets[index.toNat]?

end GridRobot.Track
