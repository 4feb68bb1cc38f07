import GridRobot.Proofs.Frames
import GridRobot.Proofs.Scheduler

/-! Upkeep. An application keeps what follows from its session: the instant of the next step, a
cursor on the grid, and the mode in which keys are read. Actions, keys and the passing of time, in
any order and at any instants, leave all three in step with the session. -/
namespace GridRobot

theorem Grid.nearestInGrid (row col : Nat) : (Grid.nearest row col).inGrid = true := by
  simp only [nearest,Position.inGrid,rows,cols,UInt64.toNat_ofNat',Bool.and_eq_true,
    decide_eq_true_eq]
  omega

theorem Position.nudgeInGrid (p : Position) (h : Heading) : (p.nudge h).inGrid = true := by
  cases h <;> exact Grid.nearestInGrid _ _

namespace Session

theorem obeyPauseless (s : Session) (c : Command) (delay : Nat) :
    .suspend delay ∉ (s.obey c).1 := by
  cases c with
  | append | clearProgram | toggleConfigMode => simp [obey]
  | replaceTrack track notice => cases notice <;> simp [obey]
  | toggleCell p => rcases s.obeyCell p with same | ⟨_,_,_,same⟩ <;> simp [same]
  | run =>
    unfold obey
    cases s.engine.refusal? s.program s.track s.robot s.configMode with
    | some refusal => cases refusal <;> simp [refusalEffects,RunRefusal.isSilent]
    | none => simp

end Session

namespace App

theorem settlePauseless {effects : List Effect} (pauseless : ∀ delay, .suspend delay ∉ effects)
    (a : App) (now : Nat) (s : Session) : (a.settle now (effects,s)).nextStepAt = a.nextStepAt := by
  have kept (b : App) : (effects.foldl (carryOut now) b).nextStepAt = b.nextStepAt := by
    induction effects generalizing b with
    | nil => rfl
    | cons e rest ih =>
      have later := ih (fun delay inside => pauseless delay (List.mem_cons_of_mem e inside))
      rw [List.foldl_cons,later]
      cases e with
      | suspend delay => exact absurd List.mem_cons_self (pauseless delay)
      | render | renderProgram | notify | clearNotice => rfl
  exact kept { a with session := s }

theorem nextStepDispatch (a : App) (now : Nat) (c : Command) :
    (a.dispatch now c).nextStepAt = a.nextStepAt := by
  cases running : a.session.isRunning with
  | true => rw [dispatchGated running]
  | false =>
    rw [dispatchObeys running]
    exact a.settlePauseless (a.session.obeyPauseless c) now _

/- All that an action can come to: a command, a request for a run, a change of the mode, or something
that the session does not notice. -/
inductive Handled (a : App) (now : Nat) : App → Prop where
  | commands (c : Command) (other : c ≠ .run) : Handled a now (a.dispatch now c)
  | requests : Handled a now (a.requestRun now)
  | switches : Handled a now (a.toggleConfig now)
  | moves (h : Heading) : Handled a now (a.moveCursor h)
  | shows (notice : Option Notice) (help : Bool) :
      Handled a now { a with notice, helpVisible := help }

theorem performHandled (a : App) (d : Directory) (draw : Draw) (now : Nat) (action : Action) :
    Handled a now (a.perform d draw now action).app := by
  unfold perform
  split
  · cases action <;> exact .shows a.notice _
  · cases action with
    | turnLeft | turnRight | forward | loopStart | loopEnd | clearProgram | toggleCell =>
      exact .commands _ (by simp)
    | run => exact .requests
    | toggleConfig => exact .switches
    | cursorUp | cursorDown | cursorLeft | cursorRight => exact .moves _
    | resetBoard =>
      simp only [performOnBoard,resetBoard]
      split
      · exact .shows a.notice _
      · exact .commands _ (by simp)
    | randomTrack =>
      simp only [performOnBoard,randomTrack]
      split
      · exact .shows a.notice _
      · exact .commands _ (by simp)
    | saveTrack =>
      simp only [performOnBoard,saveTrack]
      split
      · exact .shows a.notice _
      · split <;> exact .shows _ _
    | help | dismiss | quit => exact .shows a.notice _

def Scheduled (a : App) : Prop := a.nextStepAt.isSome = a.session.isRunning

section Scheduled
variable {a : App} (scheduled : a.Scheduled)
include scheduled

theorem scheduledDispatch (now : Nat) {c : Command} (other : c ≠ .run) :
    (a.dispatch now c).Scheduled := by
  rw [Scheduled,nextStepDispatch,scheduled]
  cases running : a.session.isRunning with
  | true => rw [dispatchGated running,running]
  | false => rw [dispatchRests running now other]

theorem scheduledRequest (now : Nat) : (a.requestRun now).Scheduled := by
  unfold requestRun
  dsimp only
  split
  · rename_i granted
    rw [Scheduled,granted]
    rfl
  · rename_i refused
    have resting : a.session.isRunning = false := by
      cases running : a.session.isRunning with
      | false => rfl
      | true => exact absurd running (dispatchGated running now .run ▸ refused)
    rw [Scheduled,nextStepDispatch,scheduled,resting,Bool.eq_false_iff.mpr refused]

theorem scheduledHandled {now : Nat} {a' : App} (handled : Handled a now a') : a'.Scheduled := by
  cases handled with
  | commands c other => exact scheduledDispatch scheduled now other
  | requests => exact scheduledRequest scheduled now
  | switches =>
    unfold toggleConfig
    dsimp only
    split <;> exact scheduledDispatch scheduled now (c := .toggleConfigMode) (by simp)
  | moves | shows => exact scheduled

theorem scheduledAdvance (now : Nat) : (a.advance now).Scheduled := by
  cases running : a.session.isRunning with
  | false => simp [advance,Scheduled,running]
  | true =>
    by_cases step : a.TakesStep now
    · rcases Session.tickEffects running with ⟨index,i,r,delay,stepped⟩ | ⟨_,_,stopped,_⟩
      · obtain ⟨goesOn,due⟩ := commitSchedules ⟨step,index,i,r,stepped⟩
        rw [Scheduled,goesOn,due]
        rfl
      · have ended := a.sessionSettle now a.session.tick
        simp [advance,Scheduled,running,(takesStepIff.mp step).2,ended,stopped]
    · rw [advanceQuiet running step]
      exact scheduled

end Scheduled

section Cursor
variable {a : App} (inside : a.cursor.inGrid = true)
include inside

theorem cursorHandled (sound : a.session.Sound) {now : Nat} {a' : App}
    (handled : Handled a now a') : a'.cursor.inGrid = true := by
  cases handled with
  | commands c => exact (a.cursorDispatch now c).symm ▸ inside
  | requests =>
    unfold requestRun
    dsimp only
    split <;> exact (a.cursorDispatch now .run).symm ▸ inside
  | switches =>
    unfold toggleConfig
    dsimp only
    split
    · exact (a.cursorDispatch now .toggleConfigMode).symm ▸ inside
    -- entering and leaving the editing put the cursor on the robot
    · rw [sessionDispatch]
      exact Session.placedInGrid (Session.soundDispatch sound .toggleConfigMode).placed
  | moves h => exact a.cursor.nudgeInGrid h
  | shows => exact inside

theorem cursorAdvance (now : Nat) : (a.advance now).cursor.inGrid = true := by
  have settled : (a.settle now a.session.tick).cursor = a.cursor := by
    obtain ⟨_,_,same⟩ := a.settleFrame now a.session.tick
    rw [same]
  unfold advance
  split
  · exact inside
  · split
    · exact inside
    · dsimp only
      split <;> exact settled ▸ inside

end Cursor

theorem cursorReachable {a : App} (reachable : Reachable a) : a.cursor.inGrid = true := by
  induction reachable with
  | new | withSession => rfl
  | perform reached d draw now action inside =>
    exact cursorHandled inside (soundReachable reached) (performHandled _ d draw now action)
  | press reached d draw now key held inside =>
    unfold press
    split
    · exact cursorHandled inside (soundReachable reached) (performHandled _ d draw now _)
    · exact inside
  | advance _ now inside => exact cursorAdvance inside now

inductive Started : App → Prop where
  | new (settings : Settings) (d : Directory) (draw : Draw) : Started (.new settings d draw)
  | withSession (track : Track) (timing : Timing) (operations : List Session.Operation)
      (custom : String)
      (resting : ((Session.new track timing).operateAll operations).isRunning = false) :
      Started (.withSession ((Session.new track timing).operateAll operations) custom)

inductive Use where
  | perform (directory : Directory) (draw : Draw) (now : Nat) (action : Action)
  | press (directory : Directory) (draw : Draw) (now : Nat) (key : Key) (held : Modifiers)
  | advance (now : Nat)

def use (a : App) : Use → App
  | .perform d draw now action => (a.perform d draw now action).app
  | .press d draw now key held => (a.press d draw now key held).app
  | .advance now => a.advance now

def useAll (a : App) (uses : List Use) : App := uses.foldl use a

theorem startedScheduled {a : App} (started : Started a) : a.Reachable ∧ a.Scheduled := by
  cases started with
  | new settings d draw => exact ⟨.new settings d draw,rfl⟩
  | withSession track timing operations custom resting =>
    exact ⟨.withSession track timing operations custom,resting.symm⟩

theorem useKeeps {a : App} (reachable : Reachable a) (scheduled : a.Scheduled) (u : Use) :
    (a.use u).Reachable ∧ (a.use u).Scheduled := by
  cases u with
  | perform d draw now action =>
    exact ⟨.perform reachable d draw now action,
      scheduledHandled scheduled (a.performHandled d draw now action)⟩
  | advance now => exact ⟨.advance reachable now,scheduledAdvance scheduled now⟩
  | press d draw now key held =>
    refine ⟨.press reachable d draw now key held,?_⟩
    unfold use press
    dsimp only
    split
    · exact scheduledHandled scheduled (a.performHandled d draw now _)
    · exact scheduled

theorem useAllKeeps {a : App} (reachable : Reachable a) (scheduled : a.Scheduled)
    (uses : List Use) : (a.useAll uses).Reachable ∧ (a.useAll uses).Scheduled := by
  induction uses generalizing a with
  | nil => exact ⟨reachable,scheduled⟩
  | cons u rest ih =>
    obtain ⟨reached,kept⟩ := useKeeps reachable scheduled u
    exact ih reached kept

structure InStep (a : App) : Prop where
  scheduled : a.nextStepAt.isSome = true ↔ a.session.isRunning = true
  cursor : a.cursor.row.toNat < Grid.rows ∧ a.cursor.col.toNat < Grid.cols
  apart : ¬ (a.session.configMode = true ∧ a.session.isRunning = true)
  mode : a.mode = .configuring ↔ a.session.configMode = true
  keys : ∀ d draw now key held, a.press d draw now key held =
    ((if a.session.configMode then Mode.configuring else .programming).lookup key held).elim
      ⟨a,d,false⟩ (a.perform d draw now)

theorem inStepScheduled {a : App} (reachable : Reachable a) (scheduled : a.Scheduled) :
    a.InStep where
  scheduled := by rw [scheduled]
  cursor := by simpa [Position.inGrid] using cursorReachable reachable
  apart := by
    rintro ⟨configuring,running⟩
    exact absurd configuring (by simp [(soundReachable reachable).plain running])
  mode := by
    unfold mode
    split <;> simp_all
  keys d draw now key held := by
    unfold press mode
    split <;> simp_all

theorem usedInStep {a : App} (started : Started a) (uses : List Use) : (a.useAll uses).InStep := by
  obtain ⟨reachable,scheduled⟩ := startedScheduled started
  obtain ⟨reached,kept⟩ := useAllKeeps reachable scheduled uses
  exact inStepScheduled reached kept

/- A session that has run once already, and another run of it that is stepped, asked for again and
left unedited. -/
def rerun : Session := (Session.new .corner ⟨100,200⟩).operateAll
  [.dispatch (.append .turnLeft),.dispatch (.append .turnRight),.play]

def rerunUses : List Use :=
  [.perform .empty 0 0 .help,.press .empty 0 0 .escape .none,.press .empty 0 9 .enter .none,
    .advance 9,.press .empty 1 20 (.char 'e') .none,.press .empty 0 30 .enter .none,
    .perform .empty 0 5 .cursorLeft]

theorem rerunInStep :
    Started (.withSession rerun "custom.json") ∧
    ((App.withSession rerun "custom.json").useAll rerunUses).InStep ∧
    ((App.withSession rerun "custom.json").useAll rerunUses).nextStepAt = some 30 := by
  have started : Started (.withSession rerun "custom.json") :=
    .withSession .corner ⟨100,200⟩ _ "custom.json" (by decide +kernel)
  exact ⟨started,usedInStep started rerunUses,by decide +kernel⟩

end App
end GridRobot
