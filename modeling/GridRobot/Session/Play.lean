import GridRobot.Session

/-! Playing a run to its end. Effects become calls on a presenter and a clock; `play`
starts a run, carries out its effects and goes on until the run is over. Nothing is
waited for here: a pause is one of the calls. -/
namespace GridRobot

inductive Call where
  | render (track : Track) (robot : Robot)
  | renderProgram (program : Program)
  | notify (notice : Notice)
  | clearNotice
  | sleep (delay : Nat)
  deriving DecidableEq, Repr

def Call.isRequired : Call → Bool
  | renderProgram _ | clearNotice => false
  | _ => true

namespace Session

def callFor (s : Session) : Effect → Call
  | .render => .render s.track s.robot
  | .renderProgram => .renderProgram s.program
  | .notify n => .notify n
  | .clearNotice => .clearNotice
  | .suspend d => .sleep d

/-- Carries out effects, all of them on the session as it stands now. -/
def apply (s : Session) (effects : List Effect) : List Call := effects.map s.callFor

def Moment.calls (m : Moment) : List Call := m.session.apply (effectsOf m.outcome)

def course (s : Session) : List Moment :=
  if _running : s.isRunning then s.next :: course s.next.session else []
  termination_by s.engine.stepsLeft
  decreasing_by exact s.stepsLeftTick _running

structure Playback where
  result : Except RunRefusal RunState
  opening : List Call
  course : List Moment
  session : Session

def Playback.calls (p : Playback) : List Call := p.opening ++ p.course.flatMap Moment.calls

def play (s : Session) : Playback :=
  match s.request with
  | (.error refusal, after) =>
    ⟨.error refusal, after.apply (refusalEffects refusal), [], after⟩
  | (.ok effects, started) =>
    let last := (started.course.getLast?.map Moment.session).getD started
    ⟨.ok last.state, started.apply effects, started.course, last⟩

end Session
end GridRobot
