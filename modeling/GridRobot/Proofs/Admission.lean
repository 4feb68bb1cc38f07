import GridRobot.Proofs.Gate
import GridRobot.Proofs.Playback

/-! Admission to a run. An engine is asked for runs and for steps, in any order and by whoever has
it. What it answers to a request for a run depends on its past only in whether a run is active; a
request that is refused leaves it as it is, and with it the session that has asked. -/
namespace GridRobot

namespace Engine

/- What a caller hands in with a request. Nothing ties one request to the next. -/
structure Scene where
  track : Track
  robot : Robot
  deriving DecidableEq, Repr

inductive Request where
  | start (program : Program) (scene : Scene) (configuring : Bool)
  | step (scene : Scene)
  deriving DecidableEq, Repr

inductive Answer where
  | started (answer : Except RunRefusal Nat)
  | stepped (outcome : StepOutcome) (robot : Robot)

def respond (e : Engine) : Request → Answer × Engine
  | .start p scene configuring =>
    let (answer,e') := e.request p scene.track scene.robot configuring
    (.started answer,e')
  | .step scene =>
    let (outcome,e',r) := e.step scene.track scene.robot
    (.stepped outcome r,e')

def respondAll (e : Engine) (requests : List Request) : Engine :=
  requests.foldl (fun e request => (e.respond request).2) e

theorem stepsTiming {t : Track} {e e' : Engine} {r r' : Robot} {outcome : StepOutcome}
    (steps : Steps t e r outcome e' r') : e'.timing = e.timing := by
  cases steps <;> rfl

theorem requestTiming (e : Engine) (p : Program) (t : Track) (r : Robot) (configuring : Bool) :
    (e.request p t r configuring).2.timing = e.timing := by
  rw [requestGuarded]
  cases e.refusal? p t r configuring <;> rfl

theorem respondTiming (e : Engine) (request : Request) : (e.respond request).2.timing = e.timing := by
  cases request with
  | start p scene configuring => exact e.requestTiming p scene.track scene.robot configuring
  | step scene => exact stepsTiming (e.stepSteps scene.track scene.robot)

theorem respondAllTiming (e : Engine) (requests : List Request) :
    (e.respondAll requests).timing = e.timing := by
  induction requests generalizing e with
  | nil => rfl
  | cons request rest ih => exact (ih _).trans (e.respondTiming request)

/- What comes of a request for a run, from what the guard looks at: each condition counts only if
those above it hold. -/
inductive Decides (timing : Timing) (e : Engine) (p : Program) (scene : Scene)
    (configuring : Bool) : Except RunRefusal Nat × Engine → Prop where
  | busy (running : e.state = .running) :
      Decides timing e p scene configuring (.error .alreadyRunning,e)
  | empty (resting : e.state ≠ .running) (nothing : p.instructions = []) :
      Decides timing e p scene configuring (.error .emptyProgram,e)
  | editing (resting : e.state ≠ .running) (filled : p.instructions ≠ [])
      (edited : configuring = true) : Decides timing e p scene configuring (.error .configuring,e)
  | astray (resting : e.state ≠ .running) (filled : p.instructions ≠ [])
      (plain : configuring = false) (off : ¬ scene.track.Covers scene.robot.position) :
      Decides timing e p scene configuring (.error (.notOnTrack scene.robot.position),e)
  | accepts (resting : e.state ≠ .running) (filled : p.instructions ≠ [])
      (plain : configuring = false) (on : scene.track.Covers scene.robot.position) :
      Decides timing e p scene configuring
        (.ok p.expand.length,(new timing).hold ⟨p.expand,0⟩)

section Decided
variable {e e' : Engine} {p : Program} {scene : Scene} {configuring : Bool}

theorem requestDecides (e : Engine) (p : Program) (scene : Scene) (configuring : Bool) :
    Decides e.timing e p scene configuring (e.request p scene.track scene.robot configuring) := by
  rw [requestGuarded]
  unfold refusal? isRunning Program.isEmpty
  by_cases running : e.state = .running
  · rw [if_pos (beq_iff_eq.mpr running)]
    exact .busy running
  rw [if_neg (mt beq_iff_eq.mp running)]
  by_cases nothing : p.instructions = []
  · rw [if_pos (List.isEmpty_iff.mpr nothing)]
    exact .empty running nothing
  rw [if_neg (mt List.isEmpty_iff.mp nothing)]
  cases configuring with
  | true => exact .editing running nothing rfl
  | false =>
    rw [if_neg Bool.false_ne_true]
    by_cases on : scene.track.traversable scene.robot.position = true
    · rw [if_pos on]
      exact .accepts running nothing rfl (Track.traversableCovers.mp on)
    · rw [if_neg on]
      exact .astray running nothing rfl (mt Track.traversableCovers.mpr on)

theorem decidesRequest {result : Except RunRefusal Nat × Engine}
    (decides : Decides e.timing e p scene configuring result) :
    e.request p scene.track scene.robot configuring = result := by
  unfold request RunState.acceptsRun Program.isEmpty
  cases decides with
  | busy running => simp [running]
  | empty resting nothing => simp [resting,nothing]
  | editing resting filled edited => simp [resting,filled,edited]
  | astray resting filled plain off => simp [resting,filled,plain,Track.traversableCovers,off]
  | accepts resting filled plain on =>
    simp [resting,filled,plain,Track.traversableCovers,on,hold,new]

theorem startResting (timed : e.timing = e'.timing) (resting : e.isRunning = false)
    (resting' : e'.isRunning = false) (p : Program) (t : Track) (r : Robot) (configuring : Bool) :
    e.start p t r configuring = e'.start p t r configuring := by
  have alike : e.refusal? p t r configuring = e'.refusal? p t r configuring := by
    unfold refusal?
    rw [resting,resting']
  have begun : e.hold ⟨p.expand,0⟩ = e'.hold ⟨p.expand,0⟩ := by simp only [hold,timed]
  rw [startGuarded,startGuarded,alike,begun]

end Decided

end Engine

namespace Session

structure Unmoved (s : Session) (refusal : RunRefusal) : Prop where
  requested : s.request = (.error refusal,s)
  asked : s.startRun = .error refusal ∧ s.operate .startRun = s
  commanded : s.dispatch .run = (refusalEffects refusal,s)
  played : s.play.result = .error refusal ∧ s.play.session = s

theorem refusedUnmoved {s : Session} {refusal : RunRefusal}
    (refused : s.engine.refusal? s.program s.track s.robot s.configMode = some refusal) :
    s.Unmoved refusal := by
  have requested := requestRefused refused
  have declined := declinesRefused refused
  refine ⟨requested,⟨startRunRefused.mpr refused,?_⟩,?_,declined.result,declined.session⟩
  · rw [operate,requested]
  · rw [dispatch,requested]

end Session

namespace Engine

theorem entryGuarded (timing : Timing) (past : List Request) (p : Program) (scene : Scene)
    (configuring : Bool) :
    let e := (new timing).respondAll past
    (∀ result, e.request p scene.track scene.robot configuring = result ↔
      Decides timing e p scene configuring result) ∧
    (e.state ≠ .running → e.start p scene.track scene.robot configuring =
      (new timing).start p scene.track scene.robot configuring) ∧
    ∀ refusal, e.start p scene.track scene.robot configuring = .error refusal →
      e.respond (.start p scene configuring) = (.started (.error refusal),e) ∧
      Session.Unmoved ⟨scene.track,p,scene.robot,configuring,e⟩ refusal := by
  intro e
  have timed : e.timing = timing := respondAllTiming (new timing) past
  refine ⟨fun result => ⟨?_,fun decides => ?_⟩,fun resting => ?_,fun refusal refused => ?_⟩
  · rintro rfl
    rw [← timed]
    exact e.requestDecides p scene configuring
  · rw [← timed] at decides
    exact decidesRequest decides
  · exact startResting timed (beq_eq_false_iff_ne.mpr resting) rfl p _ _ configuring
  · have guard := startRefused.mp refused
    refine ⟨?_,Session.refusedUnmoved guard⟩
    rw [respond,requestGuarded,guard]

end Engine
end GridRobot
