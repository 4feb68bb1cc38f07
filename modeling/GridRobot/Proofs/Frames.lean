import GridRobot.Proofs.Keyboard
import GridRobot.Proofs.Pacing
import GridRobot.Proofs.Restoring

/-! Frames. What a key press may touch depends on where the application stands: an open help lets
nothing through, a run is left alone, editing changes cells and nothing that belongs to a program,
and programming changes no cell by itself. One frame for each, and a press in any situation keeps
to the one of its situation. -/
namespace GridRobot

structure Stroke where
  key : Key
  held : Modifiers
  draw : Draw
  now : Nat

def Stroke.Replaces (k : Stroke) : Prop :=
  (k.key = .char 'n' ∨ k.key = .char 'r') ∧ (k.held = .none ∨ k.held = .shiftOnly)

namespace World

def struck (w : World) (k : Stroke) : World := w.pressed k.draw k.now k.key k.held

def HelpFrame (w w' : World) : Prop :=
  ∃ shown, w' = ⟨{ w.app with helpVisible := shown },w.directory⟩

/- A run is left alone, and nothing outside is asked for: whatever the directory and the draw had
been, the application would be the same. -/
structure RunFrame (w : World) (k : Stroke) (w' : World) : Prop where
  session : w'.app.session = w.app.session
  cursor : w'.app.cursor = w.app.cursor
  notice : w'.app.notice = w.app.notice
  directory : w'.directory = w.directory
  unconsulted : ∀ d draw, (w.app.press d draw k.now k.key k.held).app = w'.app

structure EditFrame (w : World) (k : Stroke) (w' : World) : Prop where
  program : w'.app.session.program = w.app.session.program
  engine : w'.app.session.engine = w.app.session.engine
  track : w'.app.session.track ≠ w.app.session.track → k.key = .char ' '
  cells : ∀ p, w'.app.session.track.traversable p ≠ w.app.session.track.traversable p →
    p = w.app.cursor
  directory : w'.directory = w.directory ∨
    k.key = .char 's' ∧ ∃ text, w.directory.write w.app.customTrack text = .ok w'.directory

structure ProgramFrame (w : World) (k : Stroke) (w' : World) : Prop where
  directory : w'.directory = w.directory
  cursor : w'.app.cursor ≠ w.app.cursor → w'.app.mode = .configuring
  entering : w'.app.mode = .configuring → w'.app.cursor = w'.app.session.robot.position
  track : w'.app.session.track ≠ w.app.session.track → k.Replaces
  replaced : k.Replaces → w'.app.session.program = .empty ∧
    w'.app.session.robot = ⟨w'.app.session.track.start,.east⟩

inductive Framed (w : World) (k : Stroke) (w' : World) : Prop where
  | help (shown : w.app.helpVisible = true) (frame : HelpFrame w w')
  | running (hidden : w.app.helpVisible = false) (runs : w.app.session.isRunning = true)
      (frame : RunFrame w k w')
  | configuring (hidden : w.app.helpVisible = false) (rests : w.app.session.isRunning = false)
      (edits : w.app.mode = .configuring) (frame : EditFrame w k w')
  | programming (hidden : w.app.helpVisible = false) (rests : w.app.session.isRunning = false)
      (writes : w.app.mode = .programming) (frame : ProgramFrame w k w')

end World

namespace World

variable {w w' : World} {k : Stroke}

theorem EditFrame.still (program : w'.app.session.program = w.app.session.program)
    (engine : w'.app.session.engine = w.app.session.engine)
    (track : w'.app.session.track = w.app.session.track) (directory : w'.directory = w.directory) :
    EditFrame w k w' where
  program := program
  engine := engine
  track other := absurd track other
  cells p other := absurd (congrArg (Track.traversable · p) track) other
  directory := .inl directory

theorem ProgramFrame.still (directory : w'.directory = w.directory)
    (cursor : w'.app.cursor = w.app.cursor) (mode : w'.app.mode = .programming)
    (track : w'.app.session.track = w.app.session.track) (other : ¬ k.Replaces) :
    ProgramFrame w k w' where
  directory := directory
  cursor moved := absurd cursor moved
  entering configuring := by simp [mode] at configuring
  track changed := absurd track changed
  replaced replaces := absurd replaces other

end World

theorem Stroke.replacesIff {k : Stroke} : k.Replaces ↔
    Mode.programming.lookup k.key k.held = some .resetBoard ∨
      Mode.programming.lookup k.key k.held = some .randomTrack := by
  obtain ⟨key,held,draw,now⟩ := k
  constructor
  · rintro ⟨rfl | rfl,rfl | rfl⟩ <;> dsimp only <;> decide
  · have bound : ∀ b ∈ Mode.programming.bindings, b.action = .resetBoard ∨ b.action = .randomTrack →
        (b.key = .char 'n' ∨ b.key = .char 'r') ∧ b.modifiers = .none := by decide
    have known {action : Action} (replaces : action = .resetBoard ∨ action = .randomTrack)
        (found : Mode.programming.lookup key held = some action) : Replaces ⟨key,held,draw,now⟩ := by
      obtain ⟨b,inside,rfl,rfl,fits⟩ := Mode.lookupBinding found
      obtain ⟨on,unmodified⟩ := bound b inside replaces
      exact ⟨on,fits.imp_left fun same => same.symm.trans unmodified⟩
    exact fun found => found.elim (known (.inl rfl)) (known (.inr rfl))

namespace App

theorem pressInHelp {a : App} (shown : a.helpVisible = true) (d : Directory) (draw : Draw) (now : Nat)
    (key : Key) (held : Modifiers) :
    ∃ visible quit, a.press d draw now key held = ⟨{ a with helpVisible := visible },d,quit⟩ := by
  unfold press
  cases a.mode.lookup key held with
  | none => exact ⟨a.helpVisible,false,rfl⟩
  | some action =>
    simp only [perform,shown,if_true]
    cases action with
    | quit => exact ⟨_,true,rfl⟩
    | _ => exact ⟨_,false,rfl⟩

theorem pressRunning {a : App} (hidden : a.helpVisible = false) (running : a.session.isRunning = true)
    (plain : a.mode = .programming) (now : Nat) (key : Key) (held : Modifiers) :
    ∃ visible next quit, ∀ d draw, a.press d draw now key held =
      ⟨{ a with helpVisible := visible, nextStepAt := next },d,quit⟩ := by
  have gated := dispatchGated running now
  cases meaning : a.mode.lookup key held with
  | none => exact ⟨a.helpVisible,a.nextStepAt,false,fun d draw => by simp only [press,meaning]⟩
  | some action =>
    have bound := Mode.lookupAction meaning
    rw [plain] at bound
    simp only [pressOnBoard hidden meaning]
    cases action with
    | turnLeft | turnRight | forward | loopStart | loopEnd | clearProgram =>
      exact ⟨a.helpVisible,a.nextStepAt,false,fun d draw => by rw [performOnBoard,gated]⟩
    | run =>
      refine ⟨a.helpVisible,some now,false,fun d draw => ?_⟩
      simp only [performOnBoard,requestRun,gated,running,if_true]
    | toggleConfig =>
      refine ⟨a.helpVisible,a.nextStepAt,false,fun d draw => ?_⟩
      simp only [performOnBoard,toggleConfig,gated,if_true]
    | resetBoard =>
      refine ⟨a.helpVisible,a.nextStepAt,false,fun d draw => ?_⟩
      simp only [performOnBoard,resetBoard,running,if_true]
    | randomTrack =>
      refine ⟨a.helpVisible,a.nextStepAt,false,fun d draw => ?_⟩
      simp only [performOnBoard,randomTrack,running,if_true]
    | help => exact ⟨true,a.nextStepAt,false,fun d draw => rfl⟩
    | dismiss => exact ⟨a.helpVisible,a.nextStepAt,false,fun d draw => rfl⟩
    | quit => exact ⟨a.helpVisible,a.nextStepAt,true,fun d draw => rfl⟩
    | cursorUp | cursorDown | cursorLeft | cursorRight | toggleCell | saveTrack =>
      exact absurd bound (by decide)

theorem dispatchObeys {a : App} (resting : a.session.isRunning = false) (now : Nat) (c : Command) :
    a.dispatch now c = a.settle now (a.session.obey c) := by
  rw [dispatch,Session.dispatchResting resting]

theorem sessionObeys {a : App} (resting : a.session.isRunning = false) (now : Nat) (c : Command) :
    (a.dispatch now c).session = (a.session.obey c).2 := by
  rw [dispatchObeys resting,sessionSettle]

theorem toggleConfigResting {a : App} (resting : a.session.isRunning = false) (now : Nat) :
    a.toggleConfig now = { a with
      session := { a.session with configMode := !a.session.configMode }
      cursor := a.session.robot.position } := by
  have dispatched : a.dispatch now .toggleConfigMode =
      { a with session := { a.session with configMode := !a.session.configMode } } :=
    dispatchObeys resting now _
  have flips : (!a.session.configMode) ≠ a.session.configMode := by simp
  simp only [toggleConfig,dispatched,flips,if_false]

theorem cursorDispatch (a : App) (now : Nat) (c : Command) : (a.dispatch now c).cursor = a.cursor := by
  obtain ⟨_,_,same⟩ := a.settleFrame now (a.session.dispatch c)
  rw [dispatch,same]

theorem struckOnBoard {a : App} {k : Stroke} {action : Action} (hidden : a.helpVisible = false)
    (meaning : a.mode.lookup k.key k.held = some action) (d : Directory) :
    World.struck ⟨a,d⟩ k = ⟨(a.performOnBoard d k.draw k.now action).app,
      (a.performOnBoard d k.draw k.now action).directory⟩ := by
  simp only [World.struck,World.pressed,pressOnBoard hidden meaning]

section Writing
variable {a : App} {k : Stroke} (resting : a.session.isRunning = false)
  (writes : a.mode = .programming)
include resting writes

theorem commandedFrame {c : Command}
    (same : (a.session.obey c).2.configMode = a.session.configMode)
    (track : (a.session.obey c).2.track = a.session.track) (other : ¬ k.Replaces) (d : Directory) :
    World.ProgramFrame ⟨a,d⟩ k ⟨a.dispatch k.now c,d⟩ := by
  have obeyed := sessionObeys resting k.now c
  refine .still rfl (a.cursorDispatch k.now c) ?_ ?_ other
  · simpa only [mode,obeyed,same] using writes
  · exact (congrArg Session.track obeyed).trans track

theorem replacedFrame (replaces : k.Replaces) (track : Track) (notice : Option Notice)
    (d : Directory) :
    World.ProgramFrame ⟨a,d⟩ k ⟨a.dispatch k.now (.replaceTrack track notice),d⟩ := by
  have obeyed : (a.dispatch k.now (.replaceTrack track notice)).session =
      { a.session with track, program := .empty }.parkRobot := sessionObeys resting k.now _
  have still : (a.dispatch k.now (.replaceTrack track notice)).mode = .programming := by
    simp only [mode,obeyed]
    exact writes
  exact {
    directory := rfl
    cursor := fun moved => absurd (a.cursorDispatch k.now _) moved
    entering := fun configuring => by simp [still] at configuring
    track := fun _ => replaces
    replaced := fun _ => by
      rw [obeyed]
      exact ⟨rfl,rfl⟩ }

end Writing

section Frame
variable {a : App} {k : Stroke} {action : Action} (hidden : a.helpVisible = false)
  (resting : a.session.isRunning = false) (meaning : a.mode.lookup k.key k.held = some action)
include hidden resting meaning

theorem editFrame (edits : a.mode = .configuring) (d : Directory) :
    World.EditFrame ⟨a,d⟩ k (World.struck ⟨a,d⟩ k) := by
  have struck := struckOnBoard hidden meaning d
  rw [edits] at meaning
  have bound := Mode.lookupAction meaning
  rw [struck]
  cases action with
  | cursorUp | cursorDown | cursorLeft | cursorRight | help | dismiss | quit =>
    exact .still rfl rfl rfl rfl
  | toggleConfig =>
    simp only [performOnBoard,toggleConfigResting resting]
    exact .still rfl rfl rfl rfl
  | toggleCell =>
    have space : k.key = .char ' ' := Mode.lookupKey (by decide) meaning
    have toggled := sessionObeys resting k.now (.toggleCell a.cursor)
    rcases Session.obeyCell a.session a.cursor with same | ⟨value,track,cell,same⟩
    · rw [same] at toggled
      exact .still (congrArg Session.program toggled :) (congrArg Session.engine toggled :)
        (congrArg Session.track toggled :) rfl
    · rw [same] at toggled
      have changed : (a.dispatch k.now (.toggleCell a.cursor)).session.track = track :=
        congrArg Session.track toggled
      exact {
        program := (congrArg Session.program toggled :)
        engine := (congrArg Session.engine toggled :)
        track := fun _ => space
        cells := fun p other => by
          by_contra away
          exact other (changed ▸ Track.toggleOther cell away)
        directory := .inl rfl }
  | saveTrack =>
    have saves : k.key = .char 's' := Mode.lookupKey (by decide) meaning
    simp only [performOnBoard,saveTrack,resting,Bool.false_eq_true,if_false]
    cases saved : (TrackFile.new "custom" a.session.track).save d a.customTrack with
    | error e => exact .still rfl rfl rfl rfl
    | ok d' => exact {
        program := rfl
        engine := rfl
        track := fun other => absurd rfl other
        cells := fun p other => absurd rfl other
        directory := .inr ⟨saves,_,DocumentFormat.saveWritten saved⟩ }
  | turnLeft | turnRight | forward | loopStart | loopEnd | clearProgram | run | resetBoard
  | randomTrack => exact absurd bound (by decide)

theorem programFrame (writes : a.mode = .programming) (d : Directory) :
    World.ProgramFrame ⟨a,d⟩ k (World.struck ⟨a,d⟩ k) := by
  have struck := struckOnBoard hidden meaning d
  rw [writes] at meaning
  have bound := Mode.lookupAction meaning
  rw [struck]
  have kept (other : action ≠ .resetBoard ∧ action ≠ .randomTrack) : ¬ k.Replaces := by
    rw [Stroke.replacesIff,meaning]
    simpa using other
  cases action with
  | help | dismiss | quit => exact .still rfl rfl writes rfl (kept (by decide))
  | turnLeft | turnRight | forward | loopStart | loopEnd | clearProgram =>
    exact commandedFrame resting writes rfl rfl (kept (by decide)) d
  | run =>
    obtain ⟨engine,obeyed⟩ := a.session.obeyRun
    have frame := commandedFrame (c := .run) resting writes (by rw [obeyed]) (by rw [obeyed])
      (kept (by decide)) d
    simp only [performOnBoard,requestRun]
    split
    · exact ⟨frame.directory,frame.cursor,frame.entering,frame.track,frame.replaced⟩
    · exact frame
  | toggleConfig =>
    have plain : a.session.configMode = false := by simpa [mode] using writes
    simp only [performOnBoard,toggleConfigResting resting,plain]
    exact {
      directory := rfl
      cursor := fun _ => rfl
      entering := fun _ => rfl
      track := fun other => absurd rfl other
      replaced := fun replaces => absurd replaces (kept (by decide)) }
  | resetBoard =>
    simp only [performOnBoard,resetBoard,resting,Bool.false_eq_true,if_false]
    exact replacedFrame resting writes (Stroke.replacesIff.mpr (.inl meaning)) _ _ d
  | randomTrack =>
    simp only [performOnBoard,randomTrack,resting,Bool.false_eq_true,if_false]
    exact replacedFrame resting writes (Stroke.replacesIff.mpr (.inr meaning)) _ _ d
  | cursorUp | cursorDown | cursorLeft | cursorRight | toggleCell | saveTrack =>
    exact absurd bound (by decide)

end Frame

/- A run is only started outside of configuration mode, so it is never in the editing situation. -/
theorem pressFramed {a : App} (reachable : Reachable a) (d : Directory) (k : Stroke) :
    World.Framed ⟨a,d⟩ k (World.struck ⟨a,d⟩ k) := by
  cases help : a.helpVisible with
  | true =>
    obtain ⟨visible,quit,same⟩ := pressInHelp help d k.draw k.now k.key k.held
    exact .help help ⟨visible,by simp only [World.struck,World.pressed,same]⟩
  | false =>
  cases running : a.session.isRunning with
  | true =>
    have writes : a.mode = .programming := by simp [mode,(soundReachable reachable).plain running]
    obtain ⟨visible,next,quit,same⟩ := pressRunning help running writes k.now k.key k.held
    have struck : World.struck ⟨a,d⟩ k =
        ⟨{ a with helpVisible := visible, nextStepAt := next },d⟩ := by
      simp only [World.struck,World.pressed,same]
    rw [struck]
    exact .running help running ⟨rfl,rfl,rfl,rfl,fun d draw => by rw [same]⟩
  | false =>
  cases meaning : a.mode.lookup k.key k.held with
  | none =>
    have struck : World.struck ⟨a,d⟩ k = ⟨a,d⟩ := by
      simp only [World.struck,World.pressed,press,meaning]
    rw [struck]
    cases place : a.mode with
    | configuring => exact .configuring help running place (.still rfl rfl rfl rfl)
    | programming =>
      have other : ¬ k.Replaces := by
        rw [Stroke.replacesIff,← place,meaning]
        simp
      exact .programming help running place (.still rfl rfl place rfl other)
  | some action =>
    cases place : a.mode with
    | configuring => exact .configuring help running place (editFrame help running meaning place d)
    | programming => exact .programming help running place (programFrame help running meaning place d)

end App

namespace World

theorem reachableAfterAll {w : World} (reachable : w.app.Reachable) (hs : List Happening) :
    (w.afterAll hs).app.Reachable := by
  induction hs generalizing w with
  | nil => exact reachable
  | cons h rest ih =>
    refine ih ?_
    cases h with
    | press key held draw now => exact .press reachable w.directory draw now key held
    | advance now => exact .advance reachable now
    | elsewhere d => exact reachable

theorem keysFramed {w : World} (reachable : w.app.Reachable) (hs : List Happening) (k : Stroke) :
    (w.afterAll hs).Framed k ((w.afterAll hs).struck k) :=
  App.pressFramed (reachableAfterAll reachable hs) (w.afterAll hs).directory k

theorem savingFramed : let w : World := ⟨App.editing,.beside⟩
    let k : Stroke := ⟨.char 's',.none,0,3⟩
    let w' := w.afterAll [.press (.char ' ') .none 0 1,.advance 2]
    w.app.Reachable ∧ w'.Framed k (w'.struck k) :=
  ⟨App.editingReachable,keysFramed (w := ⟨App.editing,.beside⟩) App.editingReachable _ _⟩

end World
end GridRobot
