import GridRobot.Proofs.Admission
import GridRobot.Proofs.Expansion
import GridRobot.Proofs.Position

/-! The account of a run. A caller notes the steps that an engine tells him, and begins anew with
each run. The account agrees with the cursor whatever tracks and robots are handed in, so a run
ends after as many calls as it has tokens and one more, and all that a step can move is the robot
of its own call. -/
namespace GridRobot

namespace Engine

structure Report where
  index : Nat
  instruction : Instruction
  deriving DecidableEq, Repr

def reports (sequence : List Instruction) : List Report :=
  sequence.zipIdx.map fun (i,n) => ⟨n,i⟩

theorem reportsLength (sequence : List Instruction) :
    (reports sequence).length = sequence.length := by
  rw [reports,List.length_map,List.length_zipIdx]

theorem reportsGet {sequence : List Instruction} {n : Nat} {i : Instruction}
    (token : sequence[n]? = some i) : (reports sequence)[n]? = some ⟨n,i⟩ := by
  simp [reports,token]

structure Account where
  program : Program
  told : List Report
  deriving DecidableEq, Repr

namespace Account

def blank : Account := ⟨.empty,[]⟩

def enter (a : Account) : Request → Answer → Account
  | .start p _ _,.started (.ok _) => ⟨p,[]⟩
  | .step _,.stepped (.stepped n i _ _) _ => { a with told := a.told ++ [⟨n,i⟩] }
  | _,_ => a

def following (a : Account) : Nat := a.told.getLast?.elim 0 (·.index + 1)

end Account

structure Watched where
  engine : Engine
  account : Account
  deriving DecidableEq, Repr

namespace Watched

def see (w : Watched) (request : Request) : Watched :=
  ⟨(w.engine.respond request).2,w.account.enter request (w.engine.respond request).1⟩

def after (w : Watched) (scenes : Nat → Scene) : Nat → Watched
  | 0 => w
  | n + 1 => (after w scenes n).see (.step (scenes n))

theorem afterFirst (w : Watched) (scenes : Nat → Scene) (n : Nat) :
    (w.see (.step (scenes 0))).after (fun k => scenes (k + 1)) n = w.after scenes (n + 1) := by
  induction n with
  | zero => rfl
  | succ n ih => exact congrArg (Watched.see · (.step (scenes (n + 1)))) ih

structure Agrees (w : Watched) (run : Run) : Prop where
  program : run.sequence = w.account.program.expand
  within : run.cursor ≤ run.sequence.length
  told : w.account.told = (reports run.sequence).take run.cursor

def Kept (w : Watched) : Prop := ∀ run, w.engine.run? = some run → w.Agrees run

theorem keptResting {w : Watched} (resting : w.engine.isRunning = false) : w.Kept := by
  intro run held
  rw [restingNone.mp resting] at held
  contradiction

theorem seeStart (w : Watched) (p : Program) (scene : Scene) (configuring : Bool) :
    w.see (.start p scene configuring) =
      ⟨(w.engine.request p scene.track scene.robot configuring).2,
        w.account.enter (.start p scene configuring)
          (.started (w.engine.request p scene.track scene.robot configuring).1)⟩ := rfl

theorem keptStart {w : Watched} (kept : w.Kept) (p : Program) (scene : Scene) (configuring : Bool) :
    (w.see (.start p scene configuring)).Kept := by
  rw [seeStart,requestGuarded]
  cases w.engine.refusal? p scene.track scene.robot configuring with
  | some refusal => exact kept
  | none =>
    intro run held
    cases Option.some.inj held
    exact ⟨rfl,Nat.zero_le _,rfl⟩

theorem seeStep (w : Watched) (scene : Scene) : w.see (.step scene) =
    ⟨(w.engine.step scene.track scene.robot).2.1,w.account.enter (.step scene)
      (.stepped (w.engine.step scene.track scene.robot).1
        (w.engine.step scene.track scene.robot).2.2)⟩ := rfl

theorem keptStep {w : Watched} (kept : w.Kept) (scene : Scene) : (w.see (.step scene)).Kept := by
  have steps := w.engine.stepSteps scene.track scene.robot
  rw [seeStep]
  generalize w.engine.step scene.track scene.robot = taken at steps ⊢
  obtain ⟨outcome,engine,robot⟩ := taken
  dsimp only at steps ⊢
  cases steps with
  | @commits run i _ held token obeyed =>
    obtain ⟨program,within,told⟩ := kept run held
    obtain ⟨inside,_⟩ := List.getElem?_eq_some_iff.mp token
    intro run' further
    cases (advanceHeld held).symm.trans further
    refine ⟨program,inside,?_⟩
    have added : (reports run.sequence).take (run.cursor + 1) =
        w.account.told ++ [⟨run.cursor,i⟩] := by
      rw [List.take_add_one,reportsGet token,← told]
      rfl
    exact added.symm
  | fails | completes => exact keptResting rfl
  | idle => exact kept

theorem keptSee {w : Watched} (kept : w.Kept) (request : Request) : (w.see request).Kept := by
  cases request with
  | start p scene configuring => exact keptStart kept p scene configuring
  | step scene => exact keptStep kept scene

end Watched

def watched (timing : Timing) (requests : List Request) : Watched :=
  requests.foldl Watched.see ⟨new timing,.blank⟩

theorem watchedKept (timing : Timing) (requests : List Request) : (watched timing requests).Kept := by
  have later {w : Watched} (kept : w.Kept) : (requests.foldl Watched.see w).Kept := by
    induction requests generalizing w with
    | nil => exact kept
    | cons request rest ih => exact ih (Watched.keptSee kept request)
  exact later (Watched.keptResting rfl)

inductive Moves (scene : Scene) : Instruction → Robot → Prop where
  | left : Moves scene .turnLeft ⟨scene.robot.position,scene.robot.heading.turnLeft⟩
  | right : Moves scene .turnRight ⟨scene.robot.position,scene.robot.heading.turnRight⟩
  | ahead {cell} (adjacent : cell.coordinates =
        scene.robot.position.coordinates + scene.robot.heading.offset)
      (track : scene.track.Covers cell) : Moves scene .advance ⟨cell,scene.robot.heading⟩

theorem obeyedMoves {scene : Scene} {i : Instruction} {r : Robot} (motion : i.isMotion)
    (room : scene.robot.position.HasRoom) (obeyed : scene.robot.obey? scene.track i = some r) :
    Moves scene i r := by
  cases i with
  | loopStart | loopEnd => contradiction
  | turnLeft => cases obeyed; exact .left
  | turnRight => cases obeyed; exact .right
  | advance =>
    obtain ⟨cell,found,rfl⟩ := Option.map_eq_some_iff.mp obeyed
    obtain ⟨step,track⟩ := Option.filter_eq_some_iff.mp found
    have ahead := (Option.filter_eq_some_iff.mp step).1
    exact .ahead (Position.aheadCoordinates room ahead) (Track.traversableCovers.mp track)

namespace Watched

structure Commits (w : Watched) (scene : Scene) (i : Instruction) (r : Robot) (e : Engine) : Prop where
  answer : w.engine.step scene.track scene.robot =
    (.stepped w.account.following i r (w.engine.timing.delayFor i),e,r)
  active : e.state = .running
  remaining : e.remaining + 1 = w.engine.remaining
  moves : Moves scene i r

inductive Ends (w : Watched) (scene : Scene) : StepOutcome × Engine × Robot → Prop where
  | completed {e} (all : w.account.told = reports w.account.program.expand)
      (state : e.state = .completed) :
      Ends w scene (.completed w.account.told.length,e,scene.robot)
  | failed {e i} (next : w.account.program.expand[w.account.told.length]? = some i)
      (blocked : scene.robot.Blocked scene.track i) (state : e.state = .failed) :
      Ends w scene
        (.failed ⟨w.account.following,scene.robot.position,scene.robot.heading⟩,e,scene.robot)

section Active
variable {w : Watched} {run : Run}

theorem toldLength (agrees : w.Agrees run) : w.account.told.length = run.cursor := by
  rw [agrees.told,List.length_take,reportsLength]
  exact Nat.min_eq_left agrees.within

theorem followingCursor (agrees : w.Agrees run) : w.account.following = run.cursor := by
  rw [Account.following,agrees.told]
  cases cursor : run.cursor with
  | zero => rfl
  | succ n =>
    have inside : n < run.sequence.length := by
      have within := agrees.within
      omega
    rw [List.take_add_one,reportsGet (List.getElem?_eq_getElem inside)]
    simp

theorem remainingHeld {e : Engine} (held : e.run? = some run) :
    e.remaining = run.sequence.length - run.cursor := by
  rw [Engine.remaining,held]
  rfl

theorem callGoesOnOrEnds (agrees : w.Agrees run) (held : w.engine.run? = some run)
    {scene : Scene} (room : scene.robot.position.HasRoom) :
    (∃ i r e, w.Commits scene i r e) ∨
      w.Ends scene (w.engine.step scene.track scene.robot) := by
  cases token : run.sequence[run.cursor]? with
  | none =>
    have exhausted : run.sequence.length ≤ run.cursor := List.getElem?_eq_none_iff.mp token
    have all : w.account.told = reports w.account.program.expand := by
      rw [agrees.told,← agrees.program,List.take_of_length_le (by rwa [reportsLength])]
    rw [stepCompletes held token,← toldLength agrees]
    exact .inr (.completed all rfl)
  | some i =>
    cases obeyed : scene.robot.obey? scene.track i with
    | none =>
      have next : w.account.program.expand[w.account.told.length]? = some i := by
        rw [← agrees.program,toldLength agrees,token]
      rw [stepFails held token obeyed,← followingCursor agrees]
      exact .inr (.failed next (Robot.obeyRefused obeyed) rfl)
    | some r =>
      obtain ⟨inside,_⟩ := List.getElem?_eq_some_iff.mp token
      have motion : i.isMotion := by
        have member := List.mem_of_getElem? token
        rw [agrees.program] at member
        exact Expansion.expandMotions _ i member
      have further := advanceHeld held
      refine .inl ⟨i,r,w.engine.advance,?_,runningState further,?_,obeyedMoves motion room obeyed⟩
      · rw [stepCommits held token obeyed,followingCursor agrees]
      · rw [remainingHeld further,remainingHeld held]
        dsimp only [Run.advance]
        omega

end Active

def RunsOut (w : Watched) (scenes : Nat → Scene) : Prop :=
  ∃ last, last ≤ w.engine.remaining ∧
    (∀ n, n < last → ∃ i r e, (w.after scenes n).Commits (scenes n) i r e) ∧
    (w.after scenes last).Ends (scenes last)
      ((w.after scenes last).engine.step (scenes last).track (scenes last).robot)

theorem commitsSee {w : Watched} {scene : Scene} {i : Instruction} {r : Robot} {e : Engine}
    (commits : w.Commits scene i r e) : (w.see (.step scene)).engine = e := by
  rw [seeStep,commits.answer]

theorem runsOutNow {w : Watched} {scenes : Nat → Scene}
    (ends : w.Ends (scenes 0) (w.engine.step (scenes 0).track (scenes 0).robot)) :
    w.RunsOut scenes :=
  ⟨0,Nat.zero_le _,fun n early => absurd early (Nat.not_lt_zero n),ends⟩

theorem runsOutLater {w : Watched} {scenes : Nat → Scene} {i : Instruction} {r : Robot} {e : Engine}
    (commits : w.Commits (scenes 0) i r e)
    (later : (w.see (.step (scenes 0))).RunsOut fun n => scenes (n + 1)) : w.RunsOut scenes := by
  obtain ⟨last,soon,goesOn,ends⟩ := later
  simp only [afterFirst] at goesOn ends
  refine ⟨last + 1,?_,?_,ends⟩
  · rw [← commits.remaining]
    rw [commitsSee commits] at soon
    exact Nat.succ_le_succ soon
  · intro n early
    cases n with
    | zero => exact ⟨i,r,e,commits⟩
    | succ n => exact goesOn n (Nat.lt_of_succ_lt_succ early)

theorem activeRunsOut {w : Watched} (kept : w.Kept) (active : w.engine.state = .running)
    {scenes : Nat → Scene} (room : ∀ n, (scenes n).robot.position.HasRoom) : w.RunsOut scenes := by
  -- on the tokens that remain, with the later scenes once the first call has gone on
  induction left : w.engine.remaining using Nat.strongRecOn generalizing w scenes with
  | ind tokens ih =>
    obtain ⟨run,held⟩ := Option.isSome_iff_exists.mp (w.engine.coupled.mp active)
    rcases callGoesOnOrEnds (kept run held) held (room 0) with ⟨i,r,e,commits⟩ | ends
    · have seen := commitsSee commits
      have fewer : e.remaining < tokens := by
        have once := commits.remaining
        omega
      exact runsOutLater commits (ih e.remaining fewer (keptStep kept (scenes 0))
        (by rw [seen,commits.active]) (fun n => room (n + 1)) (by rw [seen]))
    · exact runsOutNow ends

end Watched

theorem runsOut {timing : Timing} {past : List Request}
    (active : (watched timing past).engine.state = .running) {scenes : Nat → Scene}
    (room : ∀ n, (scenes n).robot.position.HasRoom) : (watched timing past).RunsOut scenes :=
  Watched.activeRunsOut (watchedKept timing past) active room

def straying : List Request :=
  [.start ⟨[.loopStart,.advance,.turnLeft,.loopEnd]⟩ ⟨.corner,.parkedOn .origin⟩ false,
    .step ⟨.corner,.parkedOn .origin⟩,.start .empty ⟨.empty,.parkedOn .origin⟩ true]

/- The second call finds a robot that comes back to the grid from beside it, the others one that
turns where no track is. -/
def stray (n : Nat) : Scene :=
  if n = 1 then ⟨.corner,⟨⟨3,5⟩,.west⟩⟩ else ⟨.empty,⟨⟨90,9⟩,.south⟩⟩

theorem strayingRunsOut :
    (watched .standard straying).engine.state = .running ∧
    (∀ n, (stray n).robot.position.HasRoom) ∧ (watched .standard straying).RunsOut stray ∧
    (watched .standard straying).engine.remaining = 3 ∧
    ((watched .standard straying).after stray 4).engine.state = .completed := by
  have active : (watched .standard straying).engine.state = .running := by decide +kernel
  have room : ∀ n, (stray n).robot.position.HasRoom := by
    intro n
    unfold stray
    split <;> exact ⟨by decide,by decide⟩
  exact ⟨active,room,runsOut active room,by decide +kernel,by decide +kernel⟩

end Engine
end GridRobot
