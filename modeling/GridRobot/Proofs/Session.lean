import GridRobot.Proofs.Run
import GridRobot.Proofs.Track
import GridRobot.Session.Play

/-! What holds of every session. Sessions are reached from a new one by commands, run
requests, ticks and whole plays in any order. `Sound` gathers the facts that each of them
keeps: those about an active run, where the robot may stand, and where it waits before
the first run. -/
namespace GridRobot.Session

inductive Operation where
  | dispatch (command : Command)
  | startRun
  | tick
  | play
  deriving DecidableEq, Repr

def operate (s : Session) : Operation → Session
  | .dispatch command => (s.dispatch command).2
  | .startRun => s.request.2
  | .tick => s.tick.2
  | .play => s.play.session

def operateAll (s : Session) (operations : List Operation) : Session := operations.foldl operate s

def Placed (s : Session) : Prop :=
  s.track.traversable s.robot.position = true ∨ s.track.count = 0 ∧ s.robot = .parkedOn .origin

structure Sound (s : Session) : Prop where
  holdsRun : s.state = .running ↔ s.engine.run?.isSome = true
  cursor : ∀ run, s.engine.run? = some run → run.cursor ≤ run.sequence.length
  plain : s.isRunning = true → s.configMode = false
  filled : s.isRunning = true → s.program.isEmpty = false
  sequence : s.isRunning = true → s.engine.run?.map Run.sequence = some s.program.expand
  onTrack : s.isRunning = true → s.track.traversable s.robot.position = true
  placed : s.Placed
  waiting : s.state = .idle → s.robot = .parkedOn s.track.start

theorem runRunning {s : Session} {run : Run} (held : s.engine.run? = some run) :
    s.isRunning = true := Engine.runHeld.mpr ⟨run,held⟩

theorem soundResting {s : Session} (resting : s.isRunning = false) (placed : s.Placed)
    (waiting : s.state = .idle → s.robot = .parkedOn s.track.start) : s.Sound where
  holdsRun := s.engine.coupled
  cursor _ held := absurd (runRunning held) (by simp [resting])
  plain running := absurd running (by simp [resting])
  filled running := absurd running (by simp [resting])
  sequence running := absurd running (by simp [resting])
  onTrack running := absurd running (by simp [resting])
  placed := placed
  waiting := waiting

theorem parkedPlaced (s : Session) : s.parkRobot.Placed := by
  rcases Track.startTraversable s.track with on | ⟨none,atOrigin⟩
  · exact .inl on
  · exact .inr ⟨none,congrArg Robot.parkedOn atOrigin⟩

theorem placedInGrid {s : Session} (placed : s.Placed) : s.robot.position.inGrid = true := by
  rcases placed with on | ⟨_,parked⟩
  · exact Track.traversableInGrid on
  · rw [parked]
    rfl

theorem soundParked {s : Session} (resting : s.isRunning = false) : s.parkRobot.Sound :=
  soundResting resting (parkedPlaced s) (fun _ => rfl)

theorem soundNew (track : Track) (timing : Timing) : (new track timing).Sound :=
  soundParked (s := new track timing) rfl

def begun (s : Session) : Session := { s with engine := s.engine.within s.program.expand 0 }

theorem requestGuarded (s : Session) : s.request =
    match s.engine.refusal? s.program s.track s.robot s.configMode with
    | some refusal => (.error refusal,s)
    | none => (.ok [.clearNotice,.render],s.begun) := by
  rw [request,Engine.requestGuarded]
  cases s.engine.refusal? s.program s.track s.robot s.configMode <;> rfl

section Guard
variable {s : Session} {refusal : RunRefusal}

theorem requestRefused
    (refused : s.engine.refusal? s.program s.track s.robot s.configMode = some refusal) :
    s.request = (.error refusal,s) := by
  rw [requestGuarded,refused]

theorem requestGranted
    (granted : s.engine.refusal? s.program s.track s.robot s.configMode = none) :
    s.request = (.ok [.clearNotice,.render],s.begun) := by
  rw [requestGuarded,granted]

theorem startRunGranted
    (granted : s.engine.refusal? s.program s.track s.robot s.configMode = none) :
    s.startRun = .ok ([.clearNotice,.render],s.begun) := by
  rw [startRun,requestGranted granted]
  rfl

theorem startRunRefused : s.startRun = .error refusal ↔
    s.engine.refusal? s.program s.track s.robot s.configMode = some refusal := by
  rw [startRun,requestGuarded]
  cases s.engine.refusal? s.program s.track s.robot s.configMode <;> simp [Except.map]

end Guard

def obey (s : Session) : Command → List Effect × Session
  | .append i => ([.renderProgram],{ s with program := s.program.append i })
  | .clearProgram => ([.renderProgram],{ s with program := .empty })
  | .run =>
    match s.engine.refusal? s.program s.track s.robot s.configMode with
    | some refusal => (refusalEffects refusal,s)
    | none => ([.clearNotice,.render],s.begun)
  | .toggleConfigMode => ([.render],{ s with configMode := !s.configMode })
  | .toggleCell p =>
    if s.configMode then
      match s.track.toggle? p with
      | some (_,track) => ([.render],{ s with track }.parkRobot)
      | none => ([],s)
    else ([],s)
  | .replaceTrack track notice =>
    ([.render,.renderProgram] ++ (notice.map Effect.notify).toList,
      { s with track, program := .empty }.parkRobot)

theorem dispatchRunning {s : Session} (running : s.isRunning = true) (c : Command) :
    s.dispatch c = ([],s) := by
  cases c with
  | append | clearProgram | toggleConfigMode | replaceTrack => exact if_pos running
  | toggleCell p => exact if_pos (by rw [running,Bool.or_true])
  | run =>
    -- the guard is asked as always, and its refusal is one of those that nobody is told of
    have busy : s.engine.refusal? s.program s.track s.robot s.configMode = some .alreadyRunning :=
      if_pos running
    rw [dispatch,requestGuarded,busy]
    rfl

theorem dispatchResting {s : Session} (resting : s.isRunning = false) (c : Command) :
    s.dispatch c = s.obey c := by
  have still : ¬ s.isRunning = true := by simp [resting]
  cases c with
  | append | clearProgram | toggleConfigMode | replaceTrack => exact if_neg still
  | run =>
    rw [dispatch,requestGuarded,obey]
    cases s.engine.refusal? s.program s.track s.robot s.configMode <;> rfl
  | toggleCell p =>
    rw [dispatch,obey,resting,Bool.or_false]
    cases s.configMode with
    | false => rfl
    | true => cases s.track.toggle? p <;> rfl

theorem dispatchGate (s : Session) (c : Command) :
    s.dispatch c = if s.isRunning then ([],s) else s.obey c := by
  split
  · exact dispatchRunning (by assumption) c
  · exact dispatchResting (by simp_all) c

theorem obeyRun (s : Session) : ∃ engine, (s.obey .run).2 = { s with engine } := by
  unfold obey
  cases s.engine.refusal? s.program s.track s.robot s.configMode with
  | some refusal => exact ⟨s.engine,rfl⟩
  | none => exact ⟨_,rfl⟩

theorem obeyCell (s : Session) (p : Position) : s.obey (.toggleCell p) = ([],s) ∨
    ∃ value track, s.track.toggle? p = some (value,track) ∧
      s.obey (.toggleCell p) = ([.render],{ s with track }.parkRobot) := by
  unfold obey
  dsimp only
  repeat' split
  · exact .inr ⟨_,_,‹_›,rfl⟩
  · exact .inl rfl
  · exact .inl rfl

theorem soundBegun {s : Session} (sound : s.Sound)
    (granted : s.engine.refusal? s.program s.track s.robot s.configMode = none) :
    s.begun.Sound := by
  obtain ⟨_,filled,plain,on⟩ := Engine.refusalNone.mp granted
  exact {
    holdsRun := Engine.coupled _
    cursor := by
      intro run held
      cases Option.some.inj held
      exact Nat.zero_le _
    plain := fun _ => plain
    filled := fun _ => filled
    sequence := fun _ => rfl
    onTrack := fun _ => on
    placed := sound.placed
    waiting := fun idle => by cases idle }

theorem soundRequest {s : Session} (sound : s.Sound) : s.request.2.Sound := by
  rw [requestGuarded]
  split
  · exact sound
  · exact soundBegun sound (by assumption)

inductive Follows (s : Session) : StepOutcome → Session → Prop where
  | commits {run i robot} (held : s.engine.run? = some run)
      (token : run.sequence[run.cursor]? = some i) (obeyed : s.robot.obey? s.track i = some robot) :
      Follows s (.stepped run.cursor i robot (s.engine.timing.delayFor i))
        { s with engine := s.engine.advance, robot }
  | fails {run i} (held : s.engine.run? = some run) (token : run.sequence[run.cursor]? = some i)
      (refused : s.robot.obey? s.track i = none) :
      Follows s (.failed ⟨run.cursor,s.robot.position,s.robot.heading⟩)
        { s with engine := s.engine.finish .failed }
  | completes {run} (held : s.engine.run? = some run)
      (exhausted : run.sequence[run.cursor]? = none) :
      Follows s (.completed run.cursor) { s with engine := s.engine.finish .completed }
  | idle (resting : s.isRunning = false) : Follows s .idle s

theorem nextFollows (s : Session) : Follows s s.next.outcome s.next.session := by
  obtain ⟨engine',robot',steps,after⟩ : ∃ engine robot,
      Engine.Steps s.track s.engine s.robot s.next.outcome engine robot ∧
        s.next.session = { s with engine, robot } :=
    ⟨_,_,Engine.stepSteps s.engine s.track s.robot,rfl⟩
  rw [after]
  generalize s.next.outcome = outcome at steps ⊢
  cases steps with
  | commits held token obeyed => exact .commits held token obeyed
  | fails held token refused => exact .fails held token refused
  | completes held exhausted => exact .completes held exhausted
  | idle resting => exact .idle resting

theorem soundNext {s : Session} (sound : s.Sound) : s.next.session.Sound := by
  have follows := nextFollows s
  generalize s.next.outcome = outcome, s.next.session = s' at follows ⊢
  cases follows with
  | @commits run i robot held token obeyed =>
    -- only the cursor and the robot have changed
    have running := runRunning held
    obtain ⟨within,_⟩ := List.getElem?_eq_some_iff.mp token
    have on := Robot.obeyTraversable (sound.onTrack running) obeyed
    have further := Engine.advanceHeld held
    have same := sound.sequence running
    rw [held] at same
    exact {
      holdsRun := Engine.coupled _
      cursor := by
        intro run' now
        cases further.symm.trans now
        exact within
      plain := fun _ => sound.plain running
      filled := fun _ => sound.filled running
      sequence := fun _ => by rw [further]; exact same
      onTrack := fun _ => on
      placed := .inl on
      waiting := fun idle => absurd idle (by simp [state,Engine.advance,Engine.runningState held]) }
  | fails => exact soundResting rfl sound.placed (fun idle => by cases idle)
  | completes => exact soundResting rfl sound.placed (fun idle => by cases idle)
  | idle => exact sound

theorem steppedRunning {s : Session} {n : Nat} {i : Instruction} {r : Robot} {delay : Nat}
    (stepped : s.next.outcome = .stepped n i r delay) :
    s.isRunning = true ∧ s.next.session.isRunning = true := by
  have follows := nextFollows s
  rw [stepped] at follows
  generalize s.next.session = s' at follows ⊢
  cases follows with
  | commits held => exact ⟨runRunning held,runRunning (Engine.advanceHeld held)⟩

theorem soundObey {s : Session} (resting : s.isRunning = false) (sound : s.Sound) (c : Command) :
    (s.obey c).2.Sound := by
  cases c with
  | append i => exact soundResting resting sound.placed sound.waiting
  | clearProgram => exact soundResting resting sound.placed sound.waiting
  | toggleConfigMode => exact soundResting resting sound.placed sound.waiting
  | replaceTrack track notice => exact soundParked resting
  | run =>
    unfold obey
    dsimp only
    split
    · exact sound
    · exact soundBegun sound (by assumption)
  | toggleCell p =>
    rcases s.obeyCell p with same | ⟨_,track,_,same⟩ <;> rw [same]
    · exact sound
    · exact soundParked resting

theorem soundDispatch {s : Session} (sound : s.Sound) (c : Command) : (s.dispatch c).2.Sound := by
  rw [dispatchGate]
  cases resting : s.isRunning with
  | true => exact sound
  | false => exact soundObey resting sound c

theorem lastCons (s : Session) (m : Moment) (later : List Moment) :
    ((m :: later).getLast?.map Moment.session).getD s =
      (later.getLast?.map Moment.session).getD m.session := by
  rw [List.getLast?_cons]
  cases later.getLast? <;> rfl

theorem soundCourse {s : Session} (sound : s.Sound) : ∀ m ∈ s.course, m.session.Sound := by
  fun_induction course s with
  | case1 s running ih =>
    intro m inside
    rcases List.mem_cons.mp inside with rfl | later
    · exact soundNext sound
    · exact ih (soundNext sound) m later
  | case2 => simp

theorem soundPlay {s : Session} (sound : s.Sound) : s.play.session.Sound := by
  have asked := soundRequest sound
  unfold play
  split
  · rename_i refused
    rwa [refused] at asked
  · rename_i effects started accepted
    rw [accepted] at asked
    dsimp only
    cases last : started.course.getLast? with
    | none => exact asked
    | some m => exact soundCourse asked m (List.mem_of_getLast? last)

theorem soundOperate {s : Session} (sound : s.Sound) (operation : Operation) :
    (s.operate operation).Sound := by
  cases operation with
  | dispatch c => exact soundDispatch sound c
  | startRun => exact soundRequest sound
  | tick => exact soundNext sound
  | play => exact soundPlay sound

theorem soundOperateAll {s : Session} (sound : s.Sound) (operations : List Operation) :
    (s.operateAll operations).Sound := by
  induction operations generalizing s with
  | nil => exact sound
  | cons operation rest ih => exact ih (soundOperate sound operation)

def Stranded (s : Session) : Prop :=
  s.isRunning = false ∧ s.program.isEmpty = false ∧ s.configMode = false ∧ s.track.count = 0

theorem offTrackIffNoTrack {s : Session} (placed : s.Placed) :
    s.track.traversable s.robot.position = false ↔ s.track.count = 0 := by
  constructor
  · intro off
    rcases placed with on | ⟨none,_⟩
    · exact absurd on (by simp [off])
    · exact none
  · intro none
    exact Track.countZero.mp none s.robot.position

theorem refusedOffTrack {s : Session} (placed : s.Placed) :
    (∃ p, s.startRun = .error (.notOnTrack p)) ↔ s.Stranded := by
  simp only [startRunRefused,Engine.refusalOffTrack]
  constructor
  · rintro ⟨_,resting,filled,plain,off,_⟩
    exact ⟨resting,filled,plain,(offTrackIffNoTrack placed).mp off⟩
  · rintro ⟨resting,filled,plain,none⟩
    exact ⟨s.robot.position,resting,filled,plain,(offTrackIffNoTrack placed).mpr none,rfl⟩

theorem runCommandRefused {s : Session} :
    (s.dispatch .run).1 = [.notify .notOnTrack] ↔ ∃ p, s.startRun = .error (.notOnTrack p) := by
  simp only [startRunRefused,dispatch,requestGuarded]
  cases s.engine.refusal? s.program s.track s.robot s.configMode with
  | some refusal => cases refusal <;> simp [refusalEffects,RunRefusal.isSilent]
  | none => simp

theorem playRefused {s : Session} :
    (∃ p, s.play.result = .error (.notOnTrack p)) ↔ ∃ p, s.startRun = .error (.notOnTrack p) := by
  simp only [startRunRefused,play,requestGuarded]
  cases s.engine.refusal? s.program s.track s.robot s.configMode <;> simp

structure RefusesStranded (s : Session) : Prop where
  startRun : (∃ p, s.startRun = .error (.notOnTrack p)) ↔ s.Stranded
  command : (s.dispatch .run).1 = [.notify .notOnTrack] ↔ s.Stranded
  play : (∃ p, s.play.result = .error (.notOnTrack p)) ↔ s.Stranded

theorem reachableSound (track : Track) (timing : Timing) (operations : List Operation) :
    ((new track timing).operateAll operations).Sound ∧
    ((new track timing).operateAll operations).RefusesStranded := by
  have sound := soundOperateAll (soundNew track timing) operations
  have refused := refusedOffTrack sound.placed
  exact ⟨sound,refused,runCommandRefused.trans refused,playRefused.trans refused⟩

/- Taking away the only cell strands a session. -/
example : ((new (.ofPositions [⟨1,1⟩]) .zero).operateAll
    [.dispatch (.append .advance),.dispatch .toggleConfigMode,.dispatch (.toggleCell ⟨1,1⟩),
      .dispatch .toggleConfigMode]).Stranded := ⟨rfl,rfl,rfl,rfl⟩

end GridRobot.Session
