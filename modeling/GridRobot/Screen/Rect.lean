/-! Rectangles of screen cells. Coordinates are 16 bit words, as terminals have them;
sizes are scaled in 32 bits. -/
namespace GridRobot

structure Rect where
  x : UInt16
  y : UInt16
  width : UInt16
  height : UInt16
  deriving DecidableEq, Repr

namespace Rect

def left (r : Rect) : Nat := r.x.toNat
def top (r : Rect) : Nat := r.y.toNat
def right (r : Rect) : Nat := r.x.toNat + r.width.toNat
def bottom (r : Rect) : Nat := r.y.toNat + r.height.toNat

def contains (r : Rect) (x y : Nat) : Bool :=
  r.left ≤ x && x < r.right && r.top ≤ y && y < r.bottom

def inner (r : Rect) : Rect :=
  ⟨r.x + 1, r.y + 1, UInt16.ofNat (r.width.toNat - 2), UInt16.ofNat (r.height.toNat - 2)⟩

def share (length percent : UInt16) : UInt16 :=
  (length.toUInt32 * percent.toUInt32 / 100).toUInt16

def shareWithin (least length percent : UInt16) : UInt16 :=
  min (max (share length percent) least) length

def leastWidth : UInt16 := 40
def leastHeight : UInt16 := 12

def centred (widthPercent heightPercent : UInt16) (area : Rect) : Rect :=
  let width := shareWithin leastWidth area.width widthPercent
  let height := shareWithin leastHeight area.height heightPercent
  ⟨area.x + (area.width - width) / 2, area.y + (area.height - height) / 2, width, height⟩

end Rect
end GridRobot
