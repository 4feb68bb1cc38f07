/-! Places in a text. A spot is a place given by what is left of the text there; it may
lie inside a character. For people a place is a line, counted from one, and the bytes
that come before it in the line. -/
namespace GridRobot.Text

structure Spot where
  left : List Char
  bytes : Nat
  deriving DecidableEq, Repr

namespace Spot

def into : Nat → List Char → Spot
  | _, [] => ⟨[], 0⟩
  | n, c :: cs => if c.utf8Size ≤ n then into (n - c.utf8Size) cs else ⟨c :: cs, n⟩

def start (left : List Char) : Spot := ⟨left, 0⟩

end Spot

structure Place where
  line : Nat
  column : Nat
  deriving DecidableEq, Repr

def byteCount (cs : List Char) : Nat := cs.foldl (· + ·.utf8Size) 0

def Spot.place (text : List Char) (s : Spot) : Place :=
  let before := text.take (text.length - s.left.length)
  ⟨1 + before.count '\n', byteCount (before.reverse.takeWhile (· != '\n')) + s.bytes⟩

def Place.text (p : Place) : String :=
  "line " ++ toString p.line ++ " column " ++ toString p.column

end GridRobot.Text
