import GridRobot.Program.Expansion
import GridRobot.Robot
import GridRobot.Timing

/-! The engine. It takes a program through a run one token at a time: an entry guard
decides whether a run may start, every step obeys the next token of the expansion,
and a run ends by using up its tokens or by an advance off the track. The engine
never waits; a step says how long its caller should pause. -/
namespace GridRobot

structure Run where
  sequence : List Instruction
  cursor : Nat
  deriving DecidableEq, Repr

def Run.remaining (r : Run) : Nat := r.sequence.length - r.cursor

def Run.advance (r : Run) : Run := { r with cursor := r.cursor + 1 }

inductive RunState where
  | idle | running | failed | completed
  deriving DecidableEq, Repr

namespace RunState

def name : RunState → String
  | idle => "Idle"
  | running => "Running"
  | failed => "Failed"
  | completed => "Completed"

def isTerminal : RunState → Bool
  | completed | failed => true
  | idle | running => false

def acceptsRun (s : RunState) : Bool := s != running

/-- The states that a run can leave behind. -/
structure Ending where
  state : RunState
  terminal : state.isTerminal

namespace Ending

def completed : Ending := ⟨.completed, rfl⟩

def failed : Ending := ⟨.failed, rfl⟩

theorem notRunning (e : Ending) : e.state ≠ .running := by
  intro running
  have terminal := e.terminal
  rw [running] at terminal
  contradiction

end Ending
end RunState

inductive RunRefusal where
  | alreadyRunning
  | emptyProgram
  | configuring
  | notOnTrack (position : Position)
  deriving DecidableEq, Repr

namespace RunRefusal

def message : RunRefusal → String
  | alreadyRunning => "a run is already in progress"
  | emptyProgram => "the program is empty"
  | configuring => "configuration mode is active"
  | notOnTrack p => "the robot is not on the track at " ++ p.text

def isSilent : RunRefusal → Bool
  | notOnTrack _ => false
  | _ => true

end RunRefusal

structure OffTrack where
  index : Nat
  origin : Position
  heading : Heading
  deriving DecidableEq, Repr

def OffTrack.message (e : OffTrack) : String :=
  "the robot left the track at step " ++ toString e.index ++ ": " ++ e.origin.text ++ " facing " ++
    e.heading.text

inductive StepOutcome where
  | stepped (index : Nat) (instruction : Instruction) (robot : Robot) (delay : Nat)
  | completed (steps : Nat)
  | failed (reason : OffTrack)
  | idle
  deriving DecidableEq, Repr

/-- The state that is told to others, and the run that is held while there is one. -/
structure Engine where
  state : RunState
  run? : Option Run
  timing : Timing
  coupled : state = .running ↔ run?.isSome = true
  deriving DecidableEq, Repr

namespace Engine

def new (timing : Timing) : Engine := ⟨.idle, none, timing, by decide⟩

def isRunning (e : Engine) : Bool := e.state == .running

def remaining (e : Engine) : Nat := e.run?.elim 0 Run.remaining

def hold (e : Engine) (run : Run) : Engine :=
  { e with state := .running, run? := some run, coupled := by simp }

def advance (e : Engine) : Engine :=
  { e with run? := e.run?.map Run.advance, coupled := by simpa using e.coupled }

/-- Releases the run and lands in a state without one. -/
def finish (e : Engine) (ending : RunState.Ending) : Engine :=
  { e with state := ending.state, run? := none, coupled := by simp [ending.notRunning] }

/-- Asks for a run over the expanded program. This gives the answer, which is the length
of the expansion if it is granted, and the engine after it. -/
def request (e : Engine) (p : Program) (t : Track) (r : Robot) (configuring : Bool) :
    Except RunRefusal Nat × Engine :=
  if !e.state.acceptsRun then (.error .alreadyRunning, e)
  else if p.isEmpty then (.error .emptyProgram, e)
  else if configuring then (.error .configuring, e)
  else if !t.traversable r.position then (.error (.notOnTrack r.position), e)
  else (.ok p.expand.length, e.hold ⟨p.expand, 0⟩)

/-- A request as it looks to who goes on with the engine only if it is granted. -/
def start (e : Engine) (p : Program) (t : Track) (r : Robot) (configuring : Bool) :
    Except RunRefusal (Nat × Engine) :=
  let (answer, after) := e.request p t r configuring
  answer.map (·, after)

def step (e : Engine) (t : Track) (r : Robot) : StepOutcome × Engine × Robot :=
  match e.run? with
  | none => (.idle, e, r)
  | some run =>
    match run.sequence[run.cursor]? with
    | none => (.completed run.cursor, e.finish .completed, r)
    | some i =>
      match r.obey? t i with
      | none => (.failed ⟨run.cursor, r.position, r.heading⟩, e.advance.finish .failed, r)
      | some r' => (.stepped run.cursor i r' (e.timing.delayFor i), e.advance, r')

def stepsLeft (e : Engine) : Nat := e.run?.elim 0 (·.remaining + 1)

theorem runHeld {e : Engine} : e.isRunning ↔ ∃ run, e.run? = some run := by
  rw [isRunning, beq_iff_eq, e.coupled, Option.isSome_iff_exists]

theorem stepsLeftLess (e : Engine) (t : Track) (r : Robot) (_running : e.isRunning) :
    (e.step t r).2.1.stepsLeft < e.stepsLeft := by
  obtain ⟨run, held⟩ := runHeld.mp _running
  simp only [step, held]
  split
  · simp [stepsLeft, held, finish]
  · rename_i i found
    have inside := (List.getElem?_eq_some_iff.mp found).1
    split
    · simp [stepsLeft, held, finish]
    · simp [stepsLeft, held, advance, Run.advance, Run.remaining]; omega

theorem runningStepped {e e' : Engine} {t : Track} {r r' : Robot} {n i q d}
    (once : e.step t r = (.stepped n i q d, e', r')) : e.isRunning := by
  cases held : e.run? with
  | none => simp [step, held] at once
  | some run => exact runHeld.mpr ⟨run, held⟩

def drain (e : Engine) (t : Track) (r : Robot) : List StepOutcome × Engine × Robot :=
  match _once : e.step t r with
  | (.stepped n i q d, e', r') =>
    let (later, last) := drain e' t r'
    (.stepped n i q d :: later, last)
  | (ending, last) => ([ending], last)
  termination_by e.stepsLeft
  decreasing_by
    have less := stepsLeftLess e t r (runningStepped _once)
    rwa [_once] at less

end Engine
end GridRobot
