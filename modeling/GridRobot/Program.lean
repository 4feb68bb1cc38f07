import GridRobot.Instruction

/-! Programs. A program is any list of instructions: nothing is checked while it is
written, and a loop may be left open, nested or empty. -/
namespace GridRobot

structure Program where
  instructions : List Instruction
  deriving DecidableEq, Repr

namespace Program

def empty : Program := ⟨[]⟩

def append (p : Program) (i : Instruction) : Program := ⟨p.instructions ++ [i]⟩

def isEmpty (p : Program) : Bool := p.instructions.isEmpty

def length (p : Program) : Nat := p.instructions.length

end Program
end GridRobot
