import GridRobot.Proofs.Gate
import GridRobot.Proofs.Position
import Mathlib.Algebra.BigOperators.Group.List.Basic
import Mathlib.Data.List.DropRight

/-! Dead reckoning. Where a robot stands follows from the start of its track and the tokens that
have been committed since it was last parked there, whichever runs these belonged to and however
those ended. Its heading depends only on how many turns there were; its place is a sum of integer
offsets, one for each advance. -/
namespace GridRobot

def Robot.replay? (t : Track) (r : Robot) (tokens : List Instruction) : Option Robot :=
  tokens.foldlM (Robot.obey? t) r

def bearing (tokens : List Instruction) : Nat :=
  (90 + 90 * tokens.count .turnRight + 270 * tokens.count .turnLeft) % 360

def offsetAt : Nat → Int × Int
  | 0 => (-1,0)
  | 90 => (0,1)
  | 180 => (1,0)
  | 270 => (0,-1)
  | _ => 0

def shift (tokens : List Instruction) : Int × Int :=
  ((List.range tokens.length).map fun n =>
    if tokens[n]? = some .advance then offsetAt (bearing (tokens.take n)) else 0).sum

theorem shiftConcat (tokens : List Instruction) (i : Instruction) :
    shift (tokens ++ [i]) =
      shift tokens + if i = .advance then offsetAt (bearing tokens) else 0 := by
  have before : (List.range tokens.length).map (fun n =>
      if (tokens ++ [i])[n]? = some .advance then offsetAt (bearing ((tokens ++ [i]).take n)) else 0) =
      (List.range tokens.length).map fun n =>
        if tokens[n]? = some .advance then offsetAt (bearing (tokens.take n)) else 0 := by
    refine List.map_congr_left fun n inside => ?_
    have within := List.mem_range.mp inside
    rw [List.getElem?_append_left within,List.take_append_of_le_length (Nat.le_of_lt within)]
  rw [shift,List.length_append,List.length_singleton,List.range_succ,List.map_append,List.sum_append,
    before]
  simp [shift]

theorem offsetAtDegrees (h : Heading) : offsetAt h.degrees = h.offset := by
  cases h <;> rfl

theorem turnRightDegrees (h : Heading) : h.turnRight.degrees = (h.degrees + 90) % 360 := by
  cases h <;> rfl

theorem turnLeftDegrees (h : Heading) : h.turnLeft.degrees = (h.degrees + 270) % 360 := by
  cases h <;> rfl

structure Reckoned (t : Track) (tokens : List Instruction) (r : Robot) : Prop where
  heading : r.heading.degrees = bearing tokens
  place : r.position.coordinates = t.start.coordinates + shift tokens
  inside : r.position.inGrid = true

theorem reckonedStart (t : Track) : Reckoned t [] (.parkedOn t.start) :=
  ⟨rfl,(add_zero _).symm,t.startInGrid⟩

theorem reckonedNext {t : Track} {tokens : List Instruction} {r r' : Robot} {i : Instruction}
    (reckoned : Reckoned t tokens r) (obeyed : r.obey? t i = some r') :
    Reckoned t (tokens ++ [i]) r' := by
  obtain ⟨heading,place,inside⟩ := reckoned
  unfold bearing at heading
  cases i with
  | turnLeft =>
    cases obeyed
    refine ⟨?_,by simpa [shiftConcat] using place,inside⟩
    rw [turnLeftDegrees,heading,bearing,List.count_append,List.count_append]
    simp
    omega
  | turnRight =>
    cases obeyed
    refine ⟨?_,by simpa [shiftConcat] using place,inside⟩
    rw [turnRightDegrees,heading,bearing,List.count_append,List.count_append]
    simp
    omega
  | loopStart | loopEnd =>
    cases obeyed
    exact ⟨by simpa [bearing] using heading,by simpa [shiftConcat] using place,inside⟩
  | advance =>
    obtain ⟨cell,ahead,rfl⟩ := Option.map_eq_some_iff.mp obeyed
    obtain ⟨coordinates,lands⟩ := Position.stepCoordinates inside (Option.filter_eq_some_iff.mp ahead).1
    refine ⟨by simpa [bearing] using heading,?_,lands⟩
    have moment : offsetAt (bearing tokens) = r.heading.offset := by
      rw [← offsetAtDegrees,heading,bearing]
    rw [shiftConcat,if_pos rfl,moment,← add_assoc,← place]
    exact coordinates

theorem replayReckoned {t : Track} {tokens : List Instruction} {r : Robot}
    (replayed : (Robot.parkedOn t.start).replay? t tokens = some r) : Reckoned t tokens r := by
  induction tokens using List.reverseRecOn generalizing r with
  | nil =>
    cases Option.some.inj replayed
    exact reckonedStart t
  | append_singleton tokens i ih =>
    rw [Robot.replay?,List.foldlM_append] at replayed
    obtain ⟨q,before,obeyed⟩ := Option.bind_eq_some_iff.mp replayed
    exact reckonedNext (ih before) (by simpa using obeyed)

theorem replayBefore {t : Track} {r r' : Robot} {tokens : List Instruction}
    (replayed : r.replay? t tokens = some r') (n : Nat) :
    ∃ q, r.replay? t (tokens.take n) = some q := by
  rw [Robot.replay?,← List.take_append_drop n tokens,List.foldlM_append] at replayed
  obtain ⟨q,before,_⟩ := Option.bind_eq_some_iff.mp replayed
  exact ⟨q,before⟩

def StepOutcome.token? : StepOutcome → Option Instruction
  | .stepped _ i _ _ => some i
  | .completed _ | .failed _ | .idle => none

namespace Session

def Turn.committed (turn : Turn) : List Instruction :=
  match turn.operation with
  | .tick => turn.before.next.outcome.token?.toList
  | .play => turn.before.play.course.flatMap (·.outcome.token?.toList)
  | .dispatch _ | .startRun => []

/- An edit of a cell or a new track, unless it was turned down without any effect. -/
def Turn.parks (turn : Turn) : Bool :=
  match turn.operation,turn.reply with
  | .dispatch (.toggleCell _),.effects (_ :: _) => true
  | .dispatch (.replaceTrack ..),.effects (_ :: _) => true
  | _,_ => false

/- What has been committed since the robot was parked the last time. -/
def history (turns : List Turn) : List Instruction :=
  (turns.rtakeWhile (!·.parks)).flatMap Turn.committed

inductive Moves (turn : Turn) : Prop where
  | parked (parks : turn.parks = true)
      (robot : turn.after.robot = .parkedOn turn.after.track.start)
  | moved (stays : turn.parks = false) (track : turn.after.track = turn.before.track)
      (replayed : turn.before.robot.replay? turn.before.track turn.committed =
        some turn.after.robot)

theorem nextReplays (s : Session) : s.next.session.track = s.track ∧
    s.robot.replay? s.track s.next.outcome.token?.toList = some s.next.session.robot := by
  have follows := nextFollows s
  generalize s.next.outcome = outcome, s.next.session = s' at follows ⊢
  cases follows with
  | commits held token obeyed => exact ⟨rfl,by simpa [StepOutcome.token?,Robot.replay?] using obeyed⟩
  | fails | completes | idle => exact ⟨rfl,rfl⟩

theorem courseReplays (s : Session) :
    ((s.course.getLast?.map Moment.session).getD s).track = s.track ∧
      s.robot.replay? s.track (s.course.flatMap (·.outcome.token?.toList)) =
        some ((s.course.getLast?.map Moment.session).getD s).robot := by
  fun_induction course s with
  | case1 s running ih =>
    obtain ⟨track,first⟩ := nextReplays s
    obtain ⟨kept,later⟩ := ih
    rw [lastCons,List.flatMap_cons,Robot.replay?,List.foldlM_append]
    rw [track] at kept later
    exact ⟨kept,Option.bind_eq_some_iff.mpr ⟨_,first,later⟩⟩
  | case2 s stopped => exact ⟨rfl,rfl⟩

theorem playReplays (s : Session) : s.play.session.track = s.track ∧
    s.robot.replay? s.track (s.play.course.flatMap (·.outcome.token?.toList)) =
      some s.play.session.robot := by
  rw [play,requestGuarded]
  cases s.engine.refusal? s.program s.track s.robot s.configMode with
  | some refusal => exact ⟨rfl,rfl⟩
  | none => exact courseReplays s.begun

theorem dispatchMoves (s : Session) (c : Command) :
    Moves ⟨s,.dispatch c,.effects (s.dispatch c).1,(s.dispatch c).2⟩ := by
  cases running : s.isRunning with
  | true =>
    rw [dispatchRunning running]
    exact .moved (by cases c <;> rfl) rfl rfl
  | false =>
    rw [dispatchResting running]
    cases c with
    | append | clearProgram | toggleConfigMode => exact .moved rfl rfl rfl
    | replaceTrack track notice => exact .parked rfl rfl
    | run =>
      obtain ⟨engine,obeyed⟩ := s.obeyRun
      have kept : (s.obey .run).2.track = s.track ∧ (s.obey .run).2.robot = s.robot := by
        rw [obeyed]
        exact ⟨rfl,rfl⟩
      exact .moved rfl kept.1 (congrArg some kept.2.symm)
    | toggleCell p =>
      rcases s.obeyCell p with turnedDown | ⟨_,track,_,edited⟩
      · rw [turnedDown]
        exact .moved rfl rfl rfl
      · rw [edited]
        exact .parked rfl rfl

theorem operateMoves (s : Session) (o : Operation) : Moves ⟨s,o,s.reply o,s.operate o⟩ := by
  cases o with
  | dispatch c => exact s.dispatchMoves c
  | tick => exact .moved rfl s.nextReplays.1 s.nextReplays.2
  | play => exact .moved rfl s.playReplays.1 s.playReplays.2
  | startRun =>
    rw [reply,operate,requestGuarded]
    cases s.engine.refusal? s.program s.track s.robot s.configMode <;> exact .moved rfl rfl rfl

theorem historyConcat (turns : List Turn) (turn : Turn) :
    history (turns ++ [turn]) = if turn.parks then [] else history turns ++ turn.committed := by
  unfold history
  cases parks : turn.parks with
  | true => rw [List.rtakeWhile_concat_neg _ _ _ (by simp [parks])]; rfl
  | false => rw [List.rtakeWhile_concat_pos _ _ _ (by simp [parks])]; simp

theorem parkedReplays {s : Session} (parked : s.robot = .parkedOn s.track.start)
    (operations : List Operation) :
    (Robot.parkedOn (s.operateAll operations).track.start).replay? (s.operateAll operations).track
      (history (s.turns operations)) = some (s.operateAll operations).robot := by
  induction operations using List.reverseRecOn with
  | nil => exact congrArg some parked.symm
  | append_singleton operations o ih =>
    rw [turnsConcat,historyConcat,operateAll,List.foldl_concat,← operateAll]
    cases operateMoves (s.operateAll operations) o with
    | parked parks robot =>
      rw [if_pos parks]
      exact congrArg some robot.symm
    | moved stays track replayed =>
      dsimp only at track replayed
      rw [if_neg (by simp [stays]),track,Robot.replay?,List.foldlM_append]
      exact Option.bind_eq_some_iff.mpr ⟨_,ih,replayed⟩

inductive Turn.Ticks (turn : Turn) : Prop where
  | commits {run i delay} (held : turn.before.engine.run? = some run)
      (token : run.sequence[run.cursor]? = some i)
      (pauses : turn.reply = .effects [.render,.suspend delay]) (committed : turn.committed = [i])
  | rests {effects} (replied : turn.reply = .effects effects)
      (restless : ∀ delay, Effect.suspend delay ∉ effects) (committed : turn.committed = [])

theorem tickTicks (s : Session) : Turn.Ticks ⟨s,.tick,s.reply .tick,s.operate .tick⟩ := by
  have follows := nextFollows s
  have replied : s.reply .tick = .effects (effectsOf s.next.outcome) := rfl
  have committed : Turn.committed ⟨s,.tick,s.reply .tick,s.operate .tick⟩ =
    s.next.outcome.token?.toList := rfl
  generalize s.next.outcome = outcome, s.next.session = s' at follows replied committed
  cases follows with
  | commits held token => exact .commits held token replied committed
  | fails | completes | idle => exact .rests replied (by simp [effectsOf]) committed

structure Retraced (s : Session) (turns : List Turn) : Prop where
  replayed : (Robot.parkedOn s.track.start).replay? s.track (history turns) = some s.robot
  reckoned : Reckoned s.track (history turns) s.robot
  way : ∀ n, ∃ q, (Robot.parkedOn s.track.start).replay? s.track ((history turns).take n) = some q ∧
    Reckoned s.track ((history turns).take n) q
  ticks : ∀ turn ∈ turns, turn.operation = .tick → turn.Ticks

theorem historyReplays (track : Track) (timing : Timing) (operations : List Operation) :
    ((new track timing).operateAll operations).Retraced
      ((new track timing).turns operations) where
  replayed := parkedReplays rfl operations
  reckoned := replayReckoned (parkedReplays rfl operations)
  way n := by
    obtain ⟨q,replayed⟩ := replayBefore (parkedReplays (s := new track timing) rfl operations) n
    exact ⟨q,replayed,replayReckoned replayed⟩
  ticks turn inside isTick := by
    obtain ⟨s,o,rfl⟩ := turnsRecorded inside
    cases isTick
    exact s.tickTicks

/- Two runs of the same program add up. -/
example : history ((new .corner .zero).turns
    [.dispatch (.append .turnRight),.startRun,.tick,.tick,.dispatch .run,.tick,.tick]) =
      [.turnRight,.turnRight] := by rfl

end Session
end GridRobot
