import GridRobot.Proofs.Pacing
import GridRobot.Proofs.Playback

/-! The scheduler. Played by the application, a run is ticked whenever an instant comes at
which its next step is due, with key presses in between; played in one go it is ticked
until it is over. Both take the same ticks, so they leave the same session, and the pauses
have no part in it. -/
namespace GridRobot

def Engine.retimed (e : Engine) (timing : Timing) : Engine := { e with timing }

theorem Engine.stepRetimed (e : Engine) (timing : Timing) (t : Track) (r : Robot) :
    ((e.retimed timing).step t r).2 = ((e.step t r).2.1.retimed timing,(e.step t r).2.2) := by
  rcases Option.eq_none_or_eq_some e.run? with none | ⟨run,held⟩
  · have resting := restingNone.mpr none
    rw [stepIdle resting,stepIdle (e := e.retimed timing) resting]
  · have same : (e.retimed timing).run? = some run := held
    cases token : run.sequence[run.cursor]? with
    | none => rw [stepCompletes held token,stepCompletes same token]; rfl
    | some i =>
      cases obeyed : r.obey? t i with
      | none => rw [stepFails held token obeyed,stepFails same token obeyed]; rfl
      | some r' => rw [stepCommits held token obeyed,stepCommits same token obeyed]; rfl

def RunState.lastWord? : RunState → Option Notice
  | .completed => some .accomplished
  | .failed => some .offTrack
  | .idle | .running => none

namespace Session

theorem obeyResting {s : Session} (resting : s.isRunning = false) {c : Command} (other : c ≠ .run) :
    (s.obey c).2.isRunning = false := by
  cases c with
  | run => contradiction
  | toggleCell p =>
    unfold obey
    dsimp only
    repeat' split
    all_goals exact resting
  | append | clearProgram | toggleConfigMode | replaceTrack => exact resting

theorem stillResting {s : Session} (resting : s.isRunning = false) {c : Command}
    (other : c ≠ .run) : (s.dispatch c).2.isRunning = false := by
  rw [dispatchResting resting]
  exact obeyResting resting other

theorem runGranted {s : Session} (granted : (s.dispatch .run).2.isRunning = true)
    (resting : s.isRunning = false) :
    s.engine.refusal? s.program s.track s.robot s.configMode = none ∧
      s.dispatch .run = ([.clearNotice,.render],s.begun) := by
  cases refusal : s.engine.refusal? s.program s.track s.robot s.configMode with
  | some why =>
    rw [dispatch,requestRefused refusal] at granted
    exact absurd granted (by simp [resting])
  | none => exact ⟨rfl,by rw [dispatch,requestGranted refusal]⟩

theorem tickEffects {s : Session} (running : s.isRunning = true) :
    (∃ index i r delay, s.next.outcome = .stepped index i r delay) ∨
    ∃ n, s.tick.1 = [.notify n] ∧ s.tick.2.isRunning = false ∧ s.tick.2.state.lastWord? = some n := by
  have follows := nextFollows s
  unfold tick
  dsimp only
  generalize s.next.outcome = outcome, s.next.session = s' at follows ⊢
  cases follows with
  | commits => exact .inl ⟨_,_,_,_,rfl⟩
  | completes => exact .inr ⟨.accomplished,rfl,rfl,rfl⟩
  | fails => exact .inr ⟨.offTrack,rfl,rfl,rfl⟩
  | idle resting => exact absurd running (by simp [resting])

def retimed (s : Session) (timing : Timing) : Session :=
  { s with engine := s.engine.retimed timing }

theorem tickRetimed (s : Session) (timing : Timing) :
    (s.retimed timing).tick.2 = s.tick.2.retimed timing :=
  congrArg (fun after : Engine × Robot => { s with engine := after.1, robot := after.2 })
    (s.engine.stepRetimed timing s.track s.robot)

theorem afterTicksRetimed (s : Session) (timing : Timing) (n : Nat) :
    (s.retimed timing).afterTicks n = (s.afterTicks n).retimed timing := by
  induction n with
  | zero => rfl
  | succ n ih => rw [afterTicks,ih,tickRetimed]; rfl

end Session

namespace App

theorem advanceSession (a : App) (now : Nat) :
    (a.advance now).session =
      if a.session.isRunning && a.isDue now then a.session.tick.2 else a.session := by
  cases running : a.session.isRunning with
  | false => simp [advance,running]
  | true =>
    cases due : a.isDue now with
    | false => simp [advance,running,due]
    | true => exact sessionAdvanceDue running due

section Request
variable {a : App} (resting : a.session.isRunning = false)
include resting

theorem dispatchRests (now : Nat) {c : Command} (other : c ≠ .run) :
    (a.dispatch now c).session.isRunning = false := by
  rw [dispatch,sessionSettle]
  exact Session.stillResting resting other

theorem performRests (d : Directory) (draw : Draw) (now : Nat) {action : Action}
    (other : action ≠ .run) :
    (a.performOnBoard d draw now action).app.session.isRunning = false := by
  cases action with
  | run => contradiction
  | turnLeft | turnRight | forward | loopStart | loopEnd | clearProgram | toggleCell =>
    exact dispatchRests resting now (by simp)
  | toggleConfig =>
    have rests := dispatchRests resting now (c := .toggleConfigMode) (by simp)
    simp only [performOnBoard,toggleConfig]
    split <;> exact rests
  | resetBoard =>
    simp only [performOnBoard,resetBoard,resting,Bool.false_eq_true,if_false]
    exact dispatchRests resting now (by simp)
  | randomTrack =>
    simp only [performOnBoard,randomTrack,resting,Bool.false_eq_true,if_false]
    exact dispatchRests resting now (by simp)
  | saveTrack =>
    simp only [performOnBoard,saveTrack,resting,Bool.false_eq_true,if_false]
    split <;> exact resting
  | cursorUp | cursorDown | cursorLeft | cursorRight | help | dismiss | quit => exact resting

theorem requestGranted {now : Nat} (accepted : (a.requestRun now).session.isRunning = true) :
    a.session.engine.refusal? a.session.program a.session.track a.session.robot
        a.session.configMode = none ∧
      a.requestRun now =
        { a with session := a.session.begun, notice := none, nextStepAt := some now } := by
  have asked : (a.requestRun now).session = (a.session.dispatch .run).2 := by
    unfold requestRun
    dsimp only
    split <;> exact sessionSettle a now _
  obtain ⟨granted,answer⟩ := Session.runGranted (by rw [← asked]; exact accepted) resting
  refine ⟨granted,?_⟩
  have begun : a.dispatch now .run = { a with session := a.session.begun, notice := none } := by
    rw [dispatch,answer]
    rfl
  rw [requestRun,begun]
  rfl

theorem runningMeansRequested {e : Event} (accepted : (a.react e).session.isRunning = true) :
    a.AsksForRun e ∧ a.react e = a.requestRun e.now := by
  obtain ⟨now,stimulus⟩ := e
  cases stimulus with
  | advance =>
    have same : (a.advance now).session = a.session := by simp [advanceSession,resting]
    exact absurd accepted (by simp [react,same,resting])
  | press key held d draw =>
    simp only [react,press] at accepted ⊢
    cases meaning : a.mode.lookup key held with
    | none => exact absurd accepted (by simp [meaning,resting])
    | some action =>
      simp only [meaning,perform] at accepted ⊢
      -- an open help takes no key to the session
      cases help : a.helpVisible with
      | true =>
        simp only [help,if_true] at accepted
        cases action <;> exact absurd accepted (by simp [performInHelp,resting])
      | false =>
        simp only [help,Bool.false_eq_true,if_false] at accepted ⊢
        by_cases isRun : action = .run
        · subst isRun
          exact ⟨⟨key,held,d,draw,rfl,help,meaning⟩,rfl⟩
        · exact absurd accepted (by simp [performRests resting d draw now isRun])

end Request

def tickTaken (a : App) (e : Event) : Nat :=
  match e.stimulus with
  | .advance => if a.session.isRunning && a.isDue e.now then 1 else 0
  | .press .. => 0

def ticksTaken : App → List Event → Nat
  | _, [] => 0
  | a, e :: rest => a.tickTaken e + ticksTaken (a.react e) rest

/- Keys are pressed only as long as the run lasts; time may go on after it. -/
def KeysDuringRun : App → List Event → Prop
  | _, [] => True
  | a, e :: rest =>
    (e.stimulus = .advance ∨ a.session.isRunning = true) ∧ KeysDuringRun (a.react e) rest

structure Attends (a : App) : Prop where
  playing : a.session.isRunning = true → ∃ due, a.nextStepAt = some due
  played : a.session.isRunning = false →
    ∃ n, a.session.state.lastWord? = some n ∧ a.notice = some n ∧ a.nextStepAt = none

theorem attendsAdvance {a : App} (attends : a.Attends) (now : Nat) : (a.advance now).Attends := by
  cases running : a.session.isRunning with
  | false =>
    obtain ⟨n,lastWord,shown,_⟩ := attends.played running
    have same : a.advance now = { a with nextStepAt := none } := by simp [advance,running]
    rw [same]
    exact ⟨fun goesOn => absurd goesOn (by simp [running]),fun _ => ⟨n,lastWord,shown,rfl⟩⟩
  | true =>
    by_cases step : a.TakesStep now
    · have due := (takesStepIff.mp step).2
      rcases Session.tickEffects running with ⟨index,i,r,delay,stepped⟩ | ⟨n,effects,stopped,lastWord⟩
      · obtain ⟨goesOn,scheduled⟩ := commitSchedules ⟨step,index,i,r,stepped⟩
        exact ⟨fun _ => ⟨_,scheduled⟩,fun ended => absurd ended (by simp [goesOn])⟩
      · have settled : a.settle now a.session.tick =
            { a with session := a.session.tick.2, notice := some n } := by
          rw [settle,effects]
          rfl
        have ends : a.advance now =
            { a with session := a.session.tick.2, notice := some n, nextStepAt := none } := by
          simp [advance,running,due,settled,stopped]
        rw [ends]
        exact ⟨fun goesOn => absurd goesOn (by simp [stopped]),fun _ => ⟨n,lastWord,rfl,rfl⟩⟩
    · rw [advanceQuiet running step]
      exact attends

theorem attendsReact {a : App} {e : Event} (attends : a.Attends)
    (allowed : e.stimulus = .advance ∨ a.session.isRunning = true) : (a.react e).Attends := by
  obtain ⟨now,stimulus⟩ := e
  cases stimulus with
  | advance => exact attendsAdvance attends now
  | press key held d draw =>
    have running := allowed.resolve_left (by simp)
    obtain ⟨same,next⟩ := pressGated running d draw now key held
    obtain ⟨due,scheduled⟩ := attends.playing running
    refine ⟨fun _ => ?_,fun ended => absurd ended (by simp [react,same,running])⟩
    simp only [react,next,scheduled]
    split <;> exact ⟨_,rfl⟩

theorem sessionReact {a : App} {e : Event}
    (allowed : e.stimulus = .advance ∨ a.session.isRunning = true) :
    (a.react e).session = a.session.afterTicks (a.tickTaken e) := by
  obtain ⟨now,stimulus⟩ := e
  cases stimulus with
  | advance =>
    simp only [react,advanceSession,tickTaken]
    split <;> rfl
  | press key held d draw =>
    exact (pressGated (allowed.resolve_left (by simp)) d draw now key held).1

theorem playedAlong {a : App} {events : List Event} (attends : a.Attends)
    (keys : KeysDuringRun a events) :
    (a.reactAll events).Attends ∧
    (a.reactAll events).session = a.session.afterTicks (ticksTaken a events) := by
  -- no event but a due tick changes the session, so the ticks taken add up
  induction events generalizing a with
  | nil => exact ⟨attends,rfl⟩
  | cons e rest ih =>
    obtain ⟨kept,later⟩ := ih (attendsReact attends keys.1) keys.2
    refine ⟨kept,later.trans ?_⟩
    rw [sessionReact keys.1,← Session.afterTicksAdd]
    rfl

structure EndsLike (a : App) (p : Session.Playback) : Prop where
  session : a.session = p.session
  result : p.result = .ok a.session.state
  notice : ∃ n, a.notice = some n ∧ p.calls.getLast? = some (.notify n)
  rests : a.nextStepAt = none

theorem endsLikePlay {a : App} {s : Session} {ticks : Nat} (attends : a.Attends)
    (granted : s.engine.refusal? s.program s.track s.robot s.configMode = none)
    (taken : a.session = s.begun.afterTicks ticks) (stopped : a.session.isRunning = false) :
    a.EndsLike s.play := by
  obtain ⟨stop,walk⟩ := Robot.stopsSomewhere s.track s.robot s.program.expand
  have plays := Session.playsGranted granted walk
  -- the run has ended, so it has been ticked past its stop, where nothing changes any more
  have past : stop < ticks := by
    rw [taken,Session.begunRunning walk] at stopped
    exact Nat.lt_of_not_le (of_decide_eq_false stopped)
  have same : a.session = s.play.session := by
    rw [taken,Session.begunAfter walk past,plays.session]
  have state : a.session.state =
      if stop = s.program.expand.length then .completed else .failed := by
    rw [same,plays.session]
    exact s.engine.endedState s.program.expand stop
  have said : a.session.state.lastWord? = some (s.closing stop) := by
    rw [state]
    unfold Session.closing
    split <;> rfl
  obtain ⟨n,lastWord,shown,rests⟩ := attends.played stopped
  cases Option.some.inj (lastWord.symm.trans said)
  refine ⟨same,by rw [plays.result,state],⟨_,shown,?_⟩,rests⟩
  rw [plays.calls,List.getLast?_append]
  rfl

structure PlaysAlong (a : App) (s : Session) (ticks : Nat) : Prop where
  session : a.session = s.begun.afterTicks ticks
  waits : a.session.isRunning = true → ∃ due, a.nextStepAt = some due
  ends : a.session.isRunning = false → a.EndsLike s.play

theorem schedulerPlays {a : App} {request : Event} {events : List Event}
    (resting : a.session.isRunning = false)
    (accepted : (a.react request).session.isRunning = true)
    (keys : KeysDuringRun (a.react request) events) :
    a.AsksForRun request ∧
    a.session.startRun = .ok ([.clearNotice,.render],a.session.begun) ∧
    ((a.react request).reactAll events).PlaysAlong a.session
      (ticksTaken (a.react request) events) ∧
    (∀ (b : App) now, (b.advance now).session =
      if b.session.isRunning && b.isDue now then b.session.tick.2 else b.session) ∧
    ∀ timing,
      (a.session.retimed timing).startRun =
        .ok ([.clearNotice,.render],(a.session.retimed timing).begun) ∧
      ∀ n, (a.session.retimed timing).begun.afterTicks n =
        (a.session.begun.afterTicks n).retimed timing := by
  obtain ⟨asks,requested⟩ := runningMeansRequested resting accepted
  rw [requested] at accepted keys ⊢
  obtain ⟨granted,begun⟩ := requestGranted resting accepted
  have attends : (a.requestRun request.now).Attends := by
    rw [begun]
    exact ⟨fun _ => ⟨_,rfl⟩,fun ended => nomatch ended⟩
  obtain ⟨kept,along⟩ := playedAlong attends keys
  have started : (a.requestRun request.now).session = a.session.begun := congrArg session begun
  rw [started] at along
  exact ⟨asks,Session.startRunGranted granted,
    ⟨along,kept.playing,endsLikePlay kept granted along⟩,advanceSession,fun timing =>
      ⟨Session.startRunGranted granted,Session.afterTicksRetimed a.session.begun timing⟩⟩

def ready : App :=
  (withSession (.new .corner ⟨100,200⟩) "custom.json").react ⟨0,.press .up .none .empty 0⟩

def runKey : Event := ⟨0,.press .enter .none .empty 0⟩

/- The second request makes the last tick due at 50, and instants need not be in order. -/
def interruptions : List Event :=
  [⟨0,.advance⟩,⟨50,.press .enter .none .empty 0⟩,⟨60,.press (.char 'c') .none .empty 0⟩,
    ⟨40,.advance⟩,⟨70,.advance⟩,⟨500,.advance⟩]

theorem interruptedRunPlays :
    ready.session.isRunning = false ∧ (ready.react runKey).session.isRunning = true ∧
    KeysDuringRun (ready.react runKey) interruptions ∧
    ticksTaken (ready.react runKey) interruptions = 2 ∧
    ((ready.react runKey).reactAll interruptions).EndsLike ready.session.play := by
  have keys : KeysDuringRun (ready.react runKey) interruptions :=
    ⟨.inl rfl,.inr rfl,.inr rfl,.inl rfl,.inl rfl,.inl rfl,trivial⟩
  exact ⟨rfl,rfl,keys,rfl,(schedulerPlays rfl rfl keys).2.2.1.ends rfl⟩

end App
end GridRobot
