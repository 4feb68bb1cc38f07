import GridRobot.App
import GridRobot.Proofs.Session

/-! Pacing. The application is exercised by key presses and by the passing of time, in any
order. A step of a run is followed by a pause, and the question is when the next step may
be taken: once the pause is over, or once a run has been asked for again in the meantime.
The session refuses such a request, but it makes the next step due at once. -/
namespace GridRobot.App

/- A key press comes with the directory and the random draw it would find. -/
inductive Stimulus where
  | press (key : Key) (held : Modifiers) (directory : Directory) (draw : Draw)
  | advance

structure Event where
  now : Nat
  stimulus : Stimulus

def react (a : App) (e : Event) : App :=
  match e.stimulus with
  | .press key held d draw => (a.press d draw e.now key held).app
  | .advance => a.advance e.now

def reactAll (a : App) (events : List Event) : App := events.foldl react a

/- Time passing takes a step of the run if the session is another one afterwards. -/
def TakesStep (a : App) (now : Nat) : Prop := (a.advance now).session ≠ a.session

def Commits (a : App) (now delay : Nat) : Prop :=
  a.TakesStep now ∧ ∃ index i r, a.session.next.outcome = .stepped index i r delay

def AsksForRun (a : App) (e : Event) : Prop :=
  ∃ key held d draw, e.stimulus = .press key held d draw ∧
    a.helpVisible = false ∧ a.mode.lookup key held = some .run

def Quiet : App → List Event → Prop
  | _, [] => True
  | a, e :: rest => (e.stimulus = .advance → ¬ a.TakesStep e.now) ∧ Quiet (a.react e) rest

def RunRequested : App → List Event → Prop
  | _, [] => False
  | a, e :: rest => a.AsksForRun e ∨ RunRequested (a.react e) rest

theorem takesStepIff {a : App} {now : Nat} :
    a.TakesStep now ↔ a.session.isRunning = true ∧ a.isDue now = true := by
  unfold TakesStep
  constructor
  · intro changed
    cases running : a.session.isRunning with
    | false => exact absurd (by simp [advance,running]) changed
    | true =>
      cases due : a.isDue now with
      | false => exact absurd (by simp [advance,running,due]) changed
      | true => exact ⟨rfl,rfl⟩
  · rintro ⟨running,due⟩ same
    rw [sessionAdvanceDue running due] at same
    have less := a.session.stepsLeftTick running
    rw [same] at less
    exact Nat.lt_irrefl _ less

theorem advanceQuiet {a : App} {now : Nat} (running : a.session.isRunning = true)
    (quiet : ¬ a.TakesStep now) : a.advance now = a := by
  have waiting : a.isDue now = false := by
    cases due : a.isDue now with
    | false => rfl
    | true => exact absurd (takesStepIff.mpr ⟨running,due⟩) quiet
  simp [advance,running,waiting]

section Gate
variable {a : App} (running : a.session.isRunning = true)
include running

theorem dispatchGated (now : Nat) (c : Command) : a.dispatch now c = a := by
  rw [dispatch,Session.dispatchRunning running]
  rfl

theorem performGated (d : Directory) (draw : Draw) (now : Nat) (action : Action) :
    (a.performOnBoard d draw now action).app.session = a.session ∧
    (a.performOnBoard d draw now action).app.nextStepAt =
      if action = .run then some now else a.nextStepAt := by
  cases action with
  | run => simp [performOnBoard,requestRun,dispatchGated running,running]
  | toggleConfig => simp [performOnBoard,toggleConfig,dispatchGated running]
  | resetBoard => simp [performOnBoard,resetBoard,running]
  | randomTrack => simp [performOnBoard,randomTrack,running]
  | saveTrack => simp [performOnBoard,saveTrack,running]
  | cursorUp | cursorDown | cursorLeft | cursorRight | help | dismiss | quit =>
    exact ⟨rfl,rfl⟩
  | _ => simp [performOnBoard,dispatchGated running]

theorem pressGated (d : Directory) (draw : Draw) (now : Nat) (key : Key) (held : Modifiers) :
    (a.press d draw now key held).app.session = a.session ∧
    (a.press d draw now key held).app.nextStepAt =
      if a.helpVisible = false ∧ a.mode.lookup key held = some .run then some now
      else a.nextStepAt := by
  unfold press
  cases meaning : a.mode.lookup key held with
  | none => exact ⟨rfl,by simp⟩
  | some action =>
    cases help : a.helpVisible with
    | false => simpa [perform,help] using performGated running d draw now action
    | true => cases action <;> simp [perform,performInHelp,help]

end Gate

theorem reactQuiet {a : App} {e : Event} (running : a.session.isRunning = true)
    (quiet : e.stimulus = .advance → ¬ a.TakesStep e.now) :
    (a.react e).session = a.session ∧
    (a.AsksForRun e → (a.react e).nextStepAt = some e.now) ∧
    (¬ a.AsksForRun e → (a.react e).nextStepAt = a.nextStepAt) := by
  obtain ⟨now,stimulus⟩ := e
  cases stimulus with
  | advance =>
    have same : a.react ⟨now,.advance⟩ = a := advanceQuiet running (quiet rfl)
    refine ⟨congrArg session same,?_,fun _ => congrArg nextStepAt same⟩
    rintro ⟨_,_,_,_,pressed,_⟩
    contradiction
  | press key held d draw =>
    obtain ⟨same,next⟩ := pressGated running d draw now key held
    refine ⟨same,?_,?_⟩
    · rintro ⟨_,_,_,_,pressed,asks⟩
      cases pressed
      exact next.trans (if_pos asks)
    · intro silent
      have otherwise : ¬ (a.helpVisible = false ∧ a.mode.lookup key held = some .run) :=
        fun asks => silent ⟨key,held,d,draw,rfl,asks⟩
      exact next.trans (if_neg otherwise)

theorem pauseQuiet {a : App} {pause : List Event} (running : a.session.isRunning = true)
    (quiet : Quiet a pause) :
    (a.reactAll pause).session = a.session ∧
    (RunRequested a pause → ∃ e ∈ pause, (a.reactAll pause).nextStepAt = some e.now) ∧
    (¬ RunRequested a pause → (a.reactAll pause).nextStepAt = a.nextStepAt) := by
  induction pause generalizing a with
  | nil => exact ⟨rfl,fun never => never.elim,fun _ => rfl⟩
  | cons e rest ih =>
    obtain ⟨still,asked,silent⟩ := reactQuiet running quiet.1
    obtain ⟨later,requested,unrequested⟩ := ih (by rw [still]; exact running) quiet.2
    refine ⟨later.trans still,?_,?_⟩
    · intro request
      -- the last request of the pause is the one that counts
      by_cases again : RunRequested (a.react e) rest
      · obtain ⟨e',inside,due⟩ := requested again
        exact ⟨e',List.mem_cons_of_mem _ inside,due⟩
      · have now := request.resolve_right again
        exact ⟨e,List.mem_cons_self,(unrequested again).trans (asked now)⟩
    · intro none
      have ⟨notNow,notLater⟩ := not_or.mp none
      exact (unrequested notLater).trans (silent notNow)

theorem commitSchedules {a : App} {now delay : Nat} (committed : a.Commits now delay) :
    (a.advance now).session.isRunning = true ∧
    (a.advance now).nextStepAt = some (now + delay) := by
  obtain ⟨step,index,i,r,stepped⟩ := committed
  obtain ⟨running,due⟩ := takesStepIff.mp step
  have goesOn := (Session.steppedRunning stepped).2
  have effects : a.session.tick = ([.render,.suspend delay],a.session.next.session) := by
    rw [Session.tick,stepped]
    rfl
  have after : a.advance now =
      { a with session := a.session.next.session, nextStepAt := some (now + delay) } := by
    simp [advance,running,due,effects,settle,carryOut,goesOn]
  exact ⟨by rw [after]; exact goesOn,by rw [after]⟩

/- A pause of `delay` begins with a step at the instant `now`. Whatever happens in it, the
run itself stands still; and the next step may be taken at an instant `later` if the pause
is over by then, or if a run has been requested in it, and in no other case. -/
theorem pauseEndsByDelayOrRequest {a : App} {now delay later : Nat} {pause : List Event}
    (committed : a.Commits now delay) (quiet : Quiet (a.advance now) pause)
    (ordered : ∀ e ∈ pause, e.now ≤ later) :
    ((a.advance now).reactAll pause).session = (a.advance now).session ∧
    (((a.advance now).reactAll pause).TakesStep later ↔
      now + delay ≤ later ∨ RunRequested (a.advance now) pause) := by
  obtain ⟨running,scheduled⟩ := commitSchedules committed
  obtain ⟨still,requested,unrequested⟩ := pauseQuiet running quiet
  refine ⟨still,?_⟩
  rw [takesStepIff,still,isDue]
  by_cases request : RunRequested (a.advance now) pause
  · obtain ⟨e,inside,due⟩ := requested request
    simp [running,request,due,ordered e inside]
  · simp [running,request,unrequested request,scheduled]

def underWay : App :=
  (withSession (.new .corner ⟨100,200⟩) "custom.json").reactAll
    [⟨0,.press (.char 'f') .none .empty 0⟩,⟨0,.press (.char 'f') .none .empty 0⟩,
      ⟨0,.press .enter .none .empty 0⟩]

theorem requestEndsPauseEarly :
    underWay.Commits 0 200 ∧
    Quiet (underWay.advance 0) [⟨50,.press .enter .none .empty 0⟩] ∧
    50 < 0 + 200 ∧
    ((underWay.advance 0).reactAll [⟨50,.press .enter .none .empty 0⟩]).TakesStep 50 := by
  have committed : underWay.Commits 0 200 :=
    ⟨takesStepIff.mpr ⟨rfl,rfl⟩,0,.advance,⟨⟨0,1⟩,.east⟩,rfl⟩
  have quiet : Quiet (underWay.advance 0) [⟨50,.press .enter .none .empty 0⟩] :=
    ⟨(nomatch ·),trivial⟩
  have requested : RunRequested (underWay.advance 0) [⟨50,.press .enter .none .empty 0⟩] :=
    .inl ⟨.enter,.none,.empty,0,rfl,rfl,rfl⟩
  exact ⟨committed,quiet,by decide,
    (pauseEndsByDelayOrRequest committed quiet (by simp)).2.mpr (.inr requested)⟩

end GridRobot.App
