import GridRobot.Keyboard
import GridRobot.Settings
import GridRobot.Track.Source

/-! The application. Around a session it keeps the notice on the status line, the cursor
that edits the track, whether the help is open, and the instant before which an active
run takes no step. Keys act on it and so does the passing of time; instants are
milliseconds and are handed in, as are the directory and the next random draw. -/
namespace GridRobot

def Grid.nearest (row col : Nat) : Position :=
  ⟨UInt64.ofNat (min row (Grid.rows - 1)), UInt64.ofNat (min col (Grid.cols - 1))⟩

def Position.nudge (p : Position) : Heading → Position
  | .north => Grid.nearest (p.row.toNat - 1) p.col.toNat
  | .east => Grid.nearest p.row.toNat (p.col.toNat + 1)
  | .south => Grid.nearest (p.row.toNat + 1) p.col.toNat
  | .west => Grid.nearest p.row.toNat (p.col.toNat - 1)

namespace Notice

def boardReset : Notice := ⟨"Board reset.", true⟩
def randomLoaded : Notice := ⟨"Random track loaded.", true⟩
def saved (path : String) : Notice := ⟨"Track saved to " ++ path ++ ".", true⟩
def notSaved (e : DocumentError) : Notice := ⟨"Could not save track: " ++ e.message, false⟩

end Notice

structure App where
  session : Session
  notice : Option Notice
  cursor : Position
  helpVisible : Bool
  nextStepAt : Option Nat
  customTrack : String
  deriving DecidableEq, Repr

namespace App

def withSession (session : Session) (customTrack : String) : App :=
  ⟨session, none, .origin, false, none, customTrack⟩

def new (settings : Settings) (d : Directory) (draw : Draw) : App :=
  let loaded := TrackSource.customOrPreset d draw (some settings.customTrack)
  { withSession (.new loaded.track settings.timing) settings.customTrack with
    notice := loaded.notice }

def mode (a : App) : Mode := if a.session.configMode then .configuring else .programming

/-- Carries out one effect. The whole screen is drawn anew every time, so there is
nothing to do for a request to draw. -/
def carryOut (now : Nat) (a : App) : Effect → App
  | .render | .renderProgram => a
  | .notify n => { a with notice := some n }
  | .clearNotice => { a with notice := none }
  | .suspend d => { a with nextStepAt := some (now + d) }

def settle (a : App) (now : Nat) (changed : List Effect × Session) : App :=
  changed.1.foldl (carryOut now) { a with session := changed.2 }

def dispatch (a : App) (now : Nat) (c : Command) : App := a.settle now (a.session.dispatch c)

def requestRun (a : App) (now : Nat) : App :=
  let a := a.dispatch now .run
  if a.session.isRunning then { a with nextStepAt := some now } else a

def toggleConfig (a : App) (now : Nat) : App :=
  let a' := a.dispatch now .toggleConfigMode
  if a'.session.configMode = a.session.configMode then a'
  else { a' with cursor := a'.session.robot.position }

def moveCursor (a : App) (h : Heading) : App := { a with cursor := a.cursor.nudge h }

def resetBoard (a : App) (d : Directory) (draw : Draw) (now : Nat) : App :=
  if a.session.isRunning then a
  else
    let loaded := TrackSource.customOrPreset d draw (some a.customTrack)
    a.dispatch now (.replaceTrack loaded.track (some (loaded.notice.getD .boardReset)))

def randomTrack (a : App) (draw : Draw) (now : Nat) : App :=
  if a.session.isRunning then a
  else a.dispatch now (.replaceTrack (Track.presets.get draw) (some .randomLoaded))

def saveTrack (a : App) (d : Directory) : App × Directory :=
  if a.session.isRunning then (a, d)
  else
    match (TrackFile.new "custom" a.session.track).save d a.customTrack with
    | .ok d' => ({ a with notice := some (.saved a.customTrack) }, d')
    | .error e => ({ a with notice := some (.notSaved e) }, d)

structure Outcome where
  app : App
  directory : Directory
  quit : Bool

def performInHelp (a : App) (d : Directory) : Action → Outcome
  | .quit => ⟨a, d, true⟩
  | .help | .dismiss => ⟨{ a with helpVisible := false }, d, false⟩
  | _ => ⟨a, d, false⟩

def performOnBoard (a : App) (d : Directory) (draw : Draw) (now : Nat) : Action → Outcome
  | .turnLeft => ⟨a.dispatch now (.append .turnLeft), d, false⟩
  | .turnRight => ⟨a.dispatch now (.append .turnRight), d, false⟩
  | .forward => ⟨a.dispatch now (.append .advance), d, false⟩
  | .loopStart => ⟨a.dispatch now (.append .loopStart), d, false⟩
  | .loopEnd => ⟨a.dispatch now (.append .loopEnd), d, false⟩
  | .clearProgram => ⟨a.dispatch now .clearProgram, d, false⟩
  | .run => ⟨a.requestRun now, d, false⟩
  | .toggleConfig => ⟨a.toggleConfig now, d, false⟩
  | .toggleCell => ⟨a.dispatch now (.toggleCell a.cursor), d, false⟩
  | .cursorUp => ⟨a.moveCursor .north, d, false⟩
  | .cursorDown => ⟨a.moveCursor .south, d, false⟩
  | .cursorLeft => ⟨a.moveCursor .west, d, false⟩
  | .cursorRight => ⟨a.moveCursor .east, d, false⟩
  | .resetBoard => ⟨a.resetBoard d draw now, d, false⟩
  | .randomTrack => ⟨a.randomTrack draw now, d, false⟩
  | .saveTrack => ⟨(a.saveTrack d).1, (a.saveTrack d).2, false⟩
  | .help => ⟨{ a with helpVisible := true }, d, false⟩
  | .dismiss => ⟨a, d, false⟩
  | .quit => ⟨a, d, true⟩

def perform (a : App) (d : Directory) (draw : Draw) (now : Nat) (action : Action) : Outcome :=
  if a.helpVisible then a.performInHelp d action else a.performOnBoard d draw now action

def press (a : App) (d : Directory) (draw : Draw) (now : Nat) (key : Key) (held : Modifiers) :
    Outcome :=
  match a.mode.lookup key held with
  | some action => a.perform d draw now action
  | none => ⟨a, d, false⟩

def isDue (a : App) (now : Nat) : Bool := a.nextStepAt.all (· ≤ now)

def advance (a : App) (now : Nat) : App :=
  if !a.session.isRunning then { a with nextStepAt := none }
  else if !a.isDue now then a
  else
    let a := a.settle now a.session.tick
    if a.session.isRunning then a else { a with nextStepAt := none }

theorem sessionCarryOut (now : Nat) (a : App) (e : Effect) :
    (carryOut now a e).session = a.session := by
  cases e <;> rfl

theorem sessionSettle (a : App) (now : Nat) (changed : List Effect × Session) :
    (a.settle now changed).session = changed.2 := by
  have kept (effects : List Effect) (b : App) :
      (effects.foldl (carryOut now) b).session = b.session := by
    induction effects generalizing b with
    | nil => rfl
    | cons e es ih => rw [List.foldl_cons, ih, sessionCarryOut]
  exact kept changed.1 _

theorem sessionAdvanceDue {a : App} {now : Nat} (running : a.session.isRunning)
    (due : a.isDue now) : (a.advance now).session = a.session.tick.2 := by
  simp only [advance, running, due, Bool.not_true, Bool.false_eq_true, if_false]
  split <;> exact sessionSettle a now a.session.tick

def resumption (a : App) (clock : Nat) : Nat := max (a.nextStepAt.getD clock) clock

theorem dueResumption (a : App) (clock : Nat) : a.isDue (a.resumption clock) := by
  unfold isDue resumption
  cases a.nextStepAt with
  | none => rfl
  | some due => exact decide_eq_true (Nat.le_max_left due clock)

structure Waiting where
  steps : Nat
  clock : Nat
  app : App

def waitForEnd (a : App) (clock : Nat) : Waiting :=
  if _running : a.session.isRunning then
    let later := waitForEnd (a.advance (a.resumption clock)) (a.resumption clock)
    { later with steps := later.steps + 1 }
  else ⟨0, clock, a⟩
  termination_by a.session.engine.stepsLeft
  decreasing_by
    rw [sessionAdvanceDue _running (a.dueResumption clock)]
    exact a.session.stepsLeftTick _running

end App
end GridRobot
