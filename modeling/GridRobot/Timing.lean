import GridRobot.Instruction

/-! Timing. How long playback pauses after each kind of step, in milliseconds. The numbers have
no bound here; settings and arguments give words, so a pause never takes an instant out of the
range of a clock (see the deadlines of an application). -/
namespace GridRobot

structure Timing where
  turn : Nat
  step : Nat
  deriving DecidableEq, Repr

namespace Timing

def standard : Timing := ⟨440, 600⟩

def zero : Timing := ⟨0, 0⟩

def delayFor (t : Timing) : Instruction → Nat
  | .advance => t.step
  | _ => t.turn

end Timing
end GridRobot
