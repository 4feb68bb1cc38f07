import GridRobot.Proofs.Ticks

/-! The gate. While a run is active a session answers nothing but ticks: commands, run
requests and plays are turned away and leave no trace. A run between other operations is
therefore the same run as one that is only ticked. -/
namespace GridRobot.Session

inductive Reply where
  | effects (effects : List Effect)
  | started (answer : Except RunRefusal (List Effect))
  | played (result : Except RunRefusal RunState) (calls : List Call)

def reply (s : Session) : Operation → Reply
  | .dispatch command => .effects (s.dispatch command).1
  | .startRun => .started s.request.1
  | .tick => .effects s.tick.1
  | .play => .played s.play.result s.play.calls

/- No tick is ever turned away. -/
inductive TurnedAway : Operation → Reply → Prop where
  | dispatch (command : Command) : TurnedAway (.dispatch command) (.effects [])
  | startRun : TurnedAway .startRun (.started (.error .alreadyRunning))
  | play : TurnedAway .play (.played (.error .alreadyRunning) [])

structure Turn where
  before : Session
  operation : Operation
  reply : Reply
  after : Session

def Turn.isTick (turn : Turn) : Bool := turn.operation == .tick

def turns (s : Session) : List Operation → List Turn
  | [] => []
  | o :: rest => ⟨s,o,s.reply o,s.operate o⟩ :: turns (s.operate o) rest

theorem turnsConcat (s : Session) (operations : List Operation) (o : Operation) :
    s.turns (operations ++ [o]) = s.turns operations ++
      [⟨s.operateAll operations,o,(s.operateAll operations).reply o,
        (s.operateAll operations).operate o⟩] := by
  induction operations generalizing s with
  | nil => rfl
  | cons first rest ih => exact congrArg (_ :: ·) (ih (s.operate first))

theorem turnsRecorded {s : Session} {operations : List Operation} {turn : Turn}
    (inside : turn ∈ s.turns operations) :
    ∃ s' o, turn = ⟨s',o,s'.reply o,s'.operate o⟩ := by
  induction operations generalizing s with
  | nil => contradiction
  | cons o rest ih =>
    rcases List.mem_cons.mp inside with rfl | later
    · exact ⟨s,o,rfl⟩
    · exact ih later

theorem turnsTake (s : Session) (operations : List Operation) (n : Nat) :
    (s.turns operations).take n = s.turns (operations.take n) := by
  induction operations generalizing s n with
  | nil => simp [turns]
  | cons o rest ih =>
    cases n with
    | zero => rfl
    | succ n => exact congrArg (_ :: ·) (ih (s.operate o) n)

def untilEnd (s : Session) : List Operation → List Operation
  | [] => []
  | o :: rest => if (s.operate o).isRunning then o :: untilEnd (s.operate o) rest else [o]

theorem untilEndStarts (s : Session) (operations : List Operation) :
    s.untilEnd operations <+: operations := by
  induction operations generalizing s with
  | nil => exact List.prefix_rfl
  | cons o rest ih =>
    unfold untilEnd
    split
    · exact List.cons_prefix_cons.mpr ⟨rfl,ih (s.operate o)⟩
    · exact List.cons_prefix_cons.mpr ⟨rfl,List.nil_prefix⟩

theorem untilEndEnds (s : Session) (operations : List Operation) :
    s.untilEnd operations = operations ∨
      (s.operateAll (s.untilEnd operations)).isRunning = false := by
  induction operations generalizing s with
  | nil => exact .inl rfl
  | cons o rest ih =>
    unfold untilEnd
    split
    · exact (ih (s.operate o)).imp_left (congrArg (o :: ·))
    · rename_i stopped
      exact .inr (Bool.eq_false_iff.mpr stopped)

section Running
variable {s : Session} (running : s.isRunning = true)
include running

theorem requestBusy : s.request = (.error .alreadyRunning,s) :=
  requestRefused (if_pos running)

theorem turnedAway {o : Operation} (other : o ≠ .tick) :
    TurnedAway o (s.reply o) ∧ s.operate o = s := by
  have busy := requestBusy running
  cases o with
  | dispatch command =>
    rw [reply,operate,dispatchRunning running]
    exact ⟨.dispatch command,rfl⟩
  | startRun =>
    rw [reply,operate,busy]
    exact ⟨.startRun,rfl⟩
  | play =>
    rw [reply,operate,play,busy]
    exact ⟨.play,rfl⟩
  | tick => contradiction

theorem untilEndOther {o : Operation} (other : o ≠ .tick) (rest : List Operation) :
    s.untilEnd (o :: rest) = o :: s.untilEnd rest := by
  rw [untilEnd,(turnedAway running other).2,if_pos running]

theorem turnsUntilEnd (operations : List Operation) :
    ∀ turn ∈ s.turns (s.untilEnd operations), turn.before.isRunning = true ∧
      (turn.operation ≠ .tick →
        TurnedAway turn.operation turn.reply ∧ turn.after = turn.before) := by
  induction operations generalizing s with
  | nil => simp [untilEnd,turns]
  | cons o rest ih =>
    intro turn inside
    have first := turnedAway running (o := o)
    unfold untilEnd at inside
    split at inside
    · rename_i going
      rcases List.mem_cons.mp inside with rfl | later
      · exact ⟨running,first⟩
      · exact ih going turn later
    · cases List.mem_singleton.mp inside
      exact ⟨running,first⟩

theorem ticksUntilEnd (operations : List Operation) :
    (s.turns (s.untilEnd operations)).filter Turn.isTick =
      s.turns (.replicate ((s.untilEnd operations).count .tick) .tick) := by
  induction operations generalizing s with
  | nil => rfl
  | cons o rest ih =>
    -- a tick may end the run, anything else leaves the session where it is
    by_cases isTick : o = .tick
    · subst isTick
      unfold untilEnd
      split
      · rename_i going
        rw [List.count_cons_self,List.replicate_succ,turns,turns,← ih going]
        rfl
      · rfl
    · have same := (turnedAway running isTick).2
      rw [untilEndOther running isTick,turns,same,List.filter_cons_of_neg (by simpa [Turn.isTick]),
        ih running,List.count_cons_of_ne isTick]

theorem sessionUntilEnd (operations : List Operation) :
    s.operateAll (s.untilEnd operations) =
      s.afterTicks ((s.untilEnd operations).count .tick) := by
  induction operations generalizing s with
  | nil => rfl
  | cons o rest ih =>
    by_cases isTick : o = .tick
    · subst isTick
      unfold untilEnd
      split
      · rename_i going
        rw [List.count_cons_self,← tickFirst]
        exact ih going
      · rfl
    · have same := (turnedAway running isTick).2
      rw [untilEndOther running isTick,List.count_cons_of_ne isTick,← ih running,operateAll,
        List.foldl_cons,same,operateAll]

end Running

structure Gated (s : Session) (operations : List Operation) : Prop where
  starts : s.untilEnd operations <+: operations
  ends : s.untilEnd operations = operations ∨
    (s.operateAll (s.untilEnd operations)).isRunning = false
  others : ∀ turn ∈ s.turns (s.untilEnd operations), turn.before.isRunning = true ∧
    (turn.operation ≠ .tick → TurnedAway turn.operation turn.reply ∧ turn.after = turn.before)
  ticks : (s.turns (s.untilEnd operations)).filter Turn.isTick =
    s.turns (.replicate ((s.untilEnd operations).count .tick) .tick)
  session : s.operateAll (s.untilEnd operations) =
    s.afterTicks ((s.untilEnd operations).count .tick)

theorem runsAreGated {s : Session} (running : s.isRunning = true) (operations : List Operation) :
    s.Gated operations where
  starts := untilEndStarts s operations
  ends := untilEndEnds s operations
  others := turnsUntilEnd running operations
  ticks := ticksUntilEnd running operations
  session := sessionUntilEnd running operations

def turning : Session := (new .corner .standard).operateAll [.dispatch (.append .turnLeft),.startRun]

def meddling : List Operation :=
  [.dispatch .clearProgram,.startRun,.tick,.dispatch (.replaceTrack .empty none),.play,
    .dispatch .toggleConfigMode,.tick,.dispatch .clearProgram]

theorem meddlingIsGated :
    turning.isRunning = true ∧ turning.Gated meddling ∧
      turning.untilEnd meddling = meddling.take 7 ∧
      (turning.operateAll (meddling.take 7)).state = .completed :=
  ⟨rfl,runsAreGated rfl meddling,rfl,rfl⟩

end GridRobot.Session
