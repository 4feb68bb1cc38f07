import GridRobot.Program
import GridRobot.Text.Blank

/-! Program text. A program is written as the short names of its instructions with
single spaces between them, and read from words with any blanks around them. The
first word that names no instruction is reported with its place among the words. -/
namespace GridRobot

structure UnknownWord where
  word : String
  index : Nat
  deriving DecidableEq, Repr

def UnknownWord.message (e : UnknownWord) : String :=
  "unknown instruction '" ++ e.word ++ "' at position " ++ toString e.index

namespace Program

def ofWords (index : Nat) : List (List Char) → Except UnknownWord (List Instruction)
  | [] => .ok []
  | w :: ws =>
    match Instruction.ofWord? w with
    | none => .error ⟨String.ofList w, index⟩
    | some i => (ofWords (index + 1) ws).map (i :: ·)

def parse (text : String) : Except UnknownWord Program :=
  (ofWords 0 (Text.words text.toList)).map Program.mk

def write (instructions : List Instruction) : String :=
  " ".intercalate (instructions.map Instruction.shortName)

def text (p : Program) : String := write p.instructions

end Program
end GridRobot
