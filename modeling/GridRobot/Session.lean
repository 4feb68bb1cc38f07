import GridRobot.Engine

/-! Sessions. A session holds all that a user works with: the track, the program, the
robot, whether the track is being edited, and the engine. Every action is a command;
dispatching one gives the session after it and the effects a front end has to carry
out. While a run is active no command changes anything. -/
namespace GridRobot

structure Notice where
  text : String
  success : Bool
  deriving DecidableEq, Repr

namespace Notice

def accomplished : Notice := ⟨"Mission accomplished!", true⟩
def offTrack : Notice := ⟨"Try again: the robot left the track.", false⟩
def notOnTrack : Notice := ⟨"Try again: the robot is not on the track.", false⟩

end Notice

inductive Effect where
  | render
  | renderProgram
  | notify (notice : Notice)
  | clearNotice
  | suspend (delay : Nat)
  deriving DecidableEq, Repr

inductive Command where
  | append (instruction : Instruction)
  | clearProgram
  | run
  | toggleConfigMode
  | toggleCell (position : Position)
  | replaceTrack (track : Track) (notice : Option Notice)
  deriving DecidableEq, Repr

structure Session where
  track : Track
  program : Program
  robot : Robot
  configMode : Bool
  engine : Engine
  deriving DecidableEq, Repr

namespace Session

def new (track : Track) (timing : Timing) : Session :=
  ⟨track, .empty, .parkedOn track.start, false, .new timing⟩

def default : Session := new .empty .standard

def isRunning (s : Session) : Bool := s.engine.isRunning

def state (s : Session) : RunState := s.engine.state

def parkRobot (s : Session) : Session := { s with robot := .parkedOn s.track.start }

/-- Asks for a run; the track is drawn anew when it is granted. -/
def request (s : Session) : Except RunRefusal (List Effect) × Session :=
  let (answer, engine) := s.engine.request s.program s.track s.robot s.configMode
  (answer.map fun _ => [.clearNotice, .render], { s with engine })

/-- A request as it looks to who goes on with the session only if it is granted. -/
def startRun (s : Session) : Except RunRefusal (List Effect × Session) :=
  let (answer, after) := s.request
  answer.map (·, after)

def effectsOf : StepOutcome → List Effect
  | .stepped _ _ _ delay => [.render, .suspend delay]
  | .completed _ => [.notify .accomplished]
  | .failed _ => [.notify .offTrack]
  | .idle => []

structure Moment where
  outcome : StepOutcome
  session : Session

def next (s : Session) : Moment :=
  let (outcome, engine, robot) := s.engine.step s.track s.robot
  ⟨outcome, { s with engine, robot }⟩

def tick (s : Session) : List Effect × Session :=
  let after := s.next
  (effectsOf after.outcome, after.session)

theorem stepsLeftTick (s : Session) (_running : s.isRunning) :
    s.tick.2.engine.stepsLeft < s.engine.stepsLeft :=
  s.engine.stepsLeftLess s.track s.robot _running

def refusalEffects (refusal : RunRefusal) : List Effect :=
  if refusal.isSilent then [] else [.notify .notOnTrack]

def dispatch (s : Session) : Command → List Effect × Session
  | .append i =>
    if s.isRunning then ([], s)
    else ([.renderProgram], { s with program := s.program.append i })
  | .clearProgram =>
    if s.isRunning then ([], s) else ([.renderProgram], { s with program := .empty })
  | .run =>
    match s.request with
    | (.ok effects, after) => (effects, after)
    | (.error refusal, after) => (refusalEffects refusal, after)
  | .toggleConfigMode =>
    if s.isRunning then ([], s) else ([.render], { s with configMode := !s.configMode })
  | .toggleCell p =>
    if !s.configMode || s.isRunning then ([], s)
    else
      match s.track.toggle? p with
      | none => ([], s)
      | some (_, track) => ([.render], { s with track }.parkRobot)
  | .replaceTrack track notice =>
    if s.isRunning then ([], s)
    else
      ([.render, .renderProgram] ++ (notice.map Effect.notify).toList,
        { { s with track }.parkRobot with program := .empty })

def dispatchAll (s : Session) : List Command → List Effect × Session
  | [] => ([], s)
  | c :: cs =>
    let (now, s') := s.dispatch c
    let (later, s'') := dispatchAll s' cs
    (now ++ later, s'')

end Session
end GridRobot
