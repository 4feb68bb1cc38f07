import GridRobot.Program

/-! Expansion of repeat blocks. A closed block is emitted twice and a block still
open at the end once; a second start drops what the open block has gathered, and an
end outside a block is dropped. `expand` does this in one pass over the tokens,
`unroll` says the same by recursion on blocks. -/
namespace GridRobot.Expansion

structure State where
  emitted : List Instruction
  body : Option (List Instruction)
  deriving DecidableEq, Repr

def State.initial : State := ⟨[], none⟩

def State.feed (s : State) : Instruction → State
  | .loopStart => { s with body := some [] }
  | .loopEnd =>
    match s.body with
    | some body => ⟨s.emitted ++ body ++ body, none⟩
    | none => s
  | motion =>
    match s.body with
    | some body => { s with body := some (body ++ [motion]) }
    | none => { s with emitted := s.emitted ++ [motion] }

def State.finish (s : State) : List Instruction := s.emitted ++ s.body.getD []

def expand (tokens : List Instruction) : List Instruction :=
  (tokens.foldl State.feed .initial).finish

def block (tokens : List Instruction) : List Instruction := tokens.takeWhile Instruction.isMotion

def afterBlock (tokens : List Instruction) : List Instruction :=
  tokens.dropWhile Instruction.isMotion

def unroll : List Instruction → List Instruction
  | [] => []
  | .loopStart :: rest =>
    match _shape : afterBlock rest with
    | [] => block rest
    | .loopEnd :: after => block rest ++ block rest ++ unroll after
    | next :: after => unroll (next :: after)
  | .loopEnd :: rest => unroll rest
  | motion :: rest => motion :: unroll rest
  termination_by tokens => tokens.length
  decreasing_by
    all_goals simp only [List.length_cons]
    all_goals try omega
    all_goals
      have shorter : (afterBlock rest).length ≤ rest.length := (List.dropWhile_suffix _).length_le
      simp only [_shape, List.length_cons] at shorter
      omega

end GridRobot.Expansion

namespace GridRobot.Program

def expand (p : Program) : List Instruction := Expansion.expand p.instructions

end GridRobot.Program
