/-! Instructions. The five tokens a program is made of: three motions and the two
markers of a repeat block. Each has a canonical name, a one-character alias, a
label for people and a tag for documents. Reading a word ignores ASCII case and
nothing else. -/
namespace GridRobot

inductive Instruction where
  | turnLeft | turnRight | advance | loopStart | loopEnd
  deriving DecidableEq, Repr

namespace Instruction

def all : List Instruction := [turnLeft, turnRight, advance, loopStart, loopEnd]

def ordinal : Instruction → Nat
  | turnLeft => 0
  | turnRight => 1
  | advance => 2
  | loopStart => 3
  | loopEnd => 4

def isMotion : Instruction → Bool
  | turnLeft | turnRight | advance => true
  | loopStart | loopEnd => false

def name : Instruction → String
  | turnLeft => "left"
  | turnRight => "right"
  | advance => "forward"
  | loopStart => "loop"
  | loopEnd => "end"

def shortName : Instruction → String
  | turnLeft => "L"
  | turnRight => "R"
  | advance => "F"
  | loopStart => "["
  | loopEnd => "]"

def label : Instruction → String
  | turnLeft => "Turn left"
  | turnRight => "Turn right"
  | advance => "Forward"
  | loopStart => "Loop start"
  | loopEnd => "Loop end"

def tag : Instruction → String
  | turnLeft => "turn_left"
  | turnRight => "turn_right"
  | advance => "advance"
  | loopStart => "loop_start"
  | loopEnd => "loop_end"

def sameWord (spelling : String) (word : List Char) : Bool :=
  spelling.toList.map Char.toLower == word.map Char.toLower

def spelledBy (i : Instruction) (word : List Char) : Bool :=
  sameWord i.name word || sameWord i.shortName word

def ofWord? (word : List Char) : Option Instruction := all.find? (·.spelledBy word)

def ofTag? (tag : String) : Option Instruction := all.find? (·.tag == tag)

theorem ofTagTag (i : Instruction) : ofTag? i.tag = some i := by
  cases i <;> decide +kernel

end Instruction
end GridRobot
