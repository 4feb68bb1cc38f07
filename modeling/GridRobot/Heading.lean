/-! Headings. The four directions a robot can face, in degrees clockwise from up,
and the two quarter turns. -/
namespace GridRobot

inductive Heading where
  | north | east | south | west
  deriving DecidableEq, Repr

namespace Heading

def initial : Heading := east

def degrees : Heading → Nat
  | north => 0
  | east => 90
  | south => 180
  | west => 270

def ofDegrees? (d : Nat) : Option Heading :=
  match d % 360 with
  | 0 => some north
  | 90 => some east
  | 180 => some south
  | 270 => some west
  | _ => none

def turnLeft : Heading → Heading
  | north => west
  | east => north
  | south => east
  | west => south

def turnRight : Heading → Heading
  | north => east
  | east => south
  | south => west
  | west => north

def arrow : Heading → Char
  | north => '▲'
  | east => '▶'
  | south => '▼'
  | west => '◀'

def text (h : Heading) : String := toString h.degrees ++ "°"

end Heading
end GridRobot
