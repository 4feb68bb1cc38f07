import GridRobot.Instruction
import GridRobot.Track

/-! The robot. It stands on a cell and faces a direction; obeying one instruction
either moves it or, for an advance off the track, cannot be done. A walk obeys a
whole list of instructions as far as it can. -/
namespace GridRobot

structure Robot where
  position : Position
  heading : Heading
  deriving DecidableEq, Repr

namespace Robot

def parkedOn (start : Position) : Robot := ⟨start, .initial⟩

def obey? (track : Track) (r : Robot) : Instruction → Option Robot
  | .turnLeft => some { r with heading := r.heading.turnLeft }
  | .turnRight => some { r with heading := r.heading.turnRight }
  | .advance =>
    ((r.position.step? r.heading).filter track.traversable).map ({ r with position := · })
  | .loopStart | .loopEnd => some r

def walk (track : Track) : Robot → List Instruction → List Robot
  | _, [] => []
  | r, i :: rest =>
    match r.obey? track i with
    | none => []
    | some r' => r' :: walk track r' rest

end Robot
end GridRobot
