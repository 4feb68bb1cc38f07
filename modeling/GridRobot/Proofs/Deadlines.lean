import GridRobot.Proofs.Admission
import GridRobot.Proofs.Upkeep

/-! Deadlines. Instants and pauses are plain numbers here, while those of a machine have a width.
Pauses are settings of sixty-four bits and no use of an application changes them, so a deadline is
never later than an instant that was handed in and such a pause after it. The range of a clock that
counts seconds in sixty-three bits is some five hundred times as long. -/
namespace GridRobot

def Timing.Fits (t : Timing) : Prop := t.turn < UInt64.size ∧ t.step < UInt64.size

theorem Timing.delayFits {t : Timing} (fits : t.Fits) (i : Instruction) :
    t.delayFor i < UInt64.size := by
  cases i with
  | advance => exact fits.2
  | turnLeft | turnRight | loopStart | loopEnd => exact fits.1

theorem Settings.timingFits (s : Settings) : s.timing.Fits :=
  ⟨s.turnDelay.toNat_lt,s.stepDelay.toNat_lt⟩

namespace Session

theorem tickTiming (s : Session) : s.tick.2.engine.timing = s.engine.timing :=
  Engine.stepsTiming (s.engine.stepSteps s.track s.robot)

theorem steppedPause {s : Session} {index : Nat} {i : Instruction} {r : Robot} {delay : Nat}
    (stepped : s.next.outcome = .stepped index i r delay) :
    delay = s.engine.timing.delayFor i := by
  have follows := nextFollows s
  rw [stepped] at follows
  generalize s.next.session = s' at follows
  cases follows with
  | commits => rfl

theorem dispatchTiming (s : Session) (c : Command) :
    (s.dispatch c).2.engine.timing = s.engine.timing := by
  cases running : s.isRunning with
  | true => rw [dispatchRunning running]
  | false =>
    rw [dispatchResting running]
    cases c with
    | append | clearProgram | toggleConfigMode | replaceTrack => rfl
    | toggleCell p => rcases s.obeyCell p with same | ⟨_,_,_,same⟩ <;> rw [same]; rfl
    | run =>
      unfold obey
      dsimp only
      split <;> rfl

end Session

namespace App

structure InTime (a : App) (latest : Nat) : Prop where
  fits : a.session.engine.timing.Fits
  due : ∀ due, a.nextStepAt = some due → due < latest + UInt64.size

def Use.now : Use → Nat
  | .perform _ _ now _ | .press _ _ now _ _ | .advance now => now

section InTime
variable {a : App} {latest : Nat} (inTime : a.InTime latest)
include inTime

theorem inTimeDispatch (now : Nat) (c : Command) : (a.dispatch now c).InTime latest where
  fits := by
    rw [sessionDispatch,Session.dispatchTiming]
    exact inTime.fits
  due := by
    rw [nextStepDispatch]
    exact inTime.due

theorem inTimeHandled {now : Nat} (passed : now ≤ latest) {a' : App}
    (handled : Handled a now a') : a'.InTime latest := by
  cases handled with
  | commands c => exact inTimeDispatch inTime now c
  | requests =>
    have asked := inTimeDispatch inTime now .run
    unfold requestRun
    dsimp only
    split
    · refine ⟨asked.fits,fun due scheduled => ?_⟩
      cases Option.some.inj scheduled
      exact Nat.lt_of_le_of_lt passed (Nat.lt_add_of_pos_right (by decide))
    · exact asked
  | switches =>
    have toggled := inTimeDispatch inTime now .toggleConfigMode
    unfold toggleConfig
    dsimp only
    split
    · exact toggled
    · exact ⟨toggled.fits,toggled.due⟩
  | moves | shows => exact ⟨inTime.fits,inTime.due⟩

theorem inTimeAdvance {now : Nat} (passed : now ≤ latest) : (a.advance now).InTime latest := by
  cases running : a.session.isRunning with
  | false =>
    have same : a.advance now = { a with nextStepAt := none } := by simp [advance,running]
    rw [same]
    exact ⟨inTime.fits,fun due scheduled => by cases scheduled⟩
  | true =>
    by_cases step : a.TakesStep now
    · have due := (takesStepIff.mp step).2
      refine ⟨?_,fun at' scheduled => ?_⟩
      · rw [sessionAdvanceDue running due,Session.tickTiming]
        exact inTime.fits
      · rcases Session.tickEffects running with ⟨index,i,r,delay,stepped⟩ | ⟨n,_,stopped,_⟩
        · rw [(commitSchedules ⟨step,index,i,r,stepped⟩).2] at scheduled
          cases Option.some.inj scheduled
          rw [Session.steppedPause stepped]
          exact Nat.add_lt_add_of_le_of_lt passed (Timing.delayFits inTime.fits i)
        · have ended := a.sessionSettle now a.session.tick
          simp [advance,running,due,ended,stopped] at scheduled
    · rw [advanceQuiet running step]
      exact inTime

theorem inTimeUse {u : Use} (passed : u.now ≤ latest) : (a.use u).InTime latest := by
  cases u with
  | perform d draw now action =>
    exact inTimeHandled inTime passed (a.performHandled d draw now action)
  | advance now => exact inTimeAdvance inTime passed
  | press d draw now key held =>
    unfold use press
    dsimp only
    split
    · exact inTimeHandled inTime passed (a.performHandled d draw now _)
    · exact inTime

end InTime

theorem inTimeUseAll {a : App} {latest : Nat} (inTime : a.InTime latest) {uses : List Use}
    (passed : ∀ u ∈ uses, u.now ≤ latest) : (a.useAll uses).InTime latest := by
  induction uses generalizing a with
  | nil => exact inTime
  | cons u rest ih =>
    have first := inTimeUse inTime (passed u List.mem_cons_self)
    exact ih first fun later inside => passed later (List.mem_cons_of_mem u inside)

/- The milliseconds from the origin of a clock to the end of its range. -/
def clockRange : Nat := 2 ^ 63 * 1000

/- Adding a pause to an instant stays in range, as long as the instants do with one pause more. -/
theorem deadlineInRange (settings : Settings) (d : Directory) (draw : Draw) {uses : List Use}
    {latest : Nat} (passed : ∀ u ∈ uses, u.now ≤ latest) (early : latest + UInt64.size ≤ clockRange)
    {due : Nat} (scheduled : ((new settings d draw).useAll uses).nextStepAt = some due) :
    due < clockRange := by
  have fresh : (new settings d draw).InTime latest :=
    ⟨settings.timingFits,fun due scheduled => by cases scheduled⟩
  exact Nat.lt_of_lt_of_le ((inTimeUseAll fresh passed).due due scheduled) early

end App
end GridRobot
