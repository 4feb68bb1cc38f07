import GridRobot.CommandLine.Arguments
import GridRobot.CommandLine.Console
import GridRobot.Log.Filter
import GridRobot.Log.Messages
import GridRobot.Track.Source

/-! The command line program. Every command is a script: the log is opened first, then the
settings are loaded, then the task is carried out. Whatever goes wrong is told on the
error output, with its cause, and ends the script with code 1. -/
namespace GridRobot.CommandLine

structure Report where
  message : String
  cause : Option String
  deriving DecidableEq, Repr

namespace Report

def ofDocument (e : DocumentError) : Report := ⟨e.message, e.cause?⟩

def ofSource (e : TrackSource.Error) : Report := ⟨e.message, e.cause?⟩

def ofFailure (f : Failure) : Report := ⟨f.message, none⟩

def line (r : Report) : String := r.message ++ r.cause.elim "" (": " ++ ·)

def text (r : Report) : String :=
  "Error: " ++ r.message ++ r.cause.elim "" ("\n\nCaused by:\n    " ++ ·)

def script (r : Report) : Script := .tell (.complain r.text) (.finish 1)

end Report

inductive LogSink where
  | nowhere
  | errors
  | file (path : String)
  deriving DecidableEq, Repr

structure Logger where
  filter : Log.Filter
  sink : LogSink
  deriving DecidableEq, Repr

namespace Logger

def events (l : Logger) (r : Log.Record) : List Event :=
  if l.filter.keeps r then
    match l.sink with
    | .nowhere => []
    | .errors => [.record none r]
    | .file path => [.record (some path) r]
  else []

def log (l : Logger) (r : Log.Record) (next : Script) : Script := .tellAll (l.events r) next

end Logger

def runEvents (l : Logger) (s : Session) : List Event :=
  let played := s.play
  let opened := match played.result with
    | .ok _ => l.events (.runStarted s.program s.robot.position)
    | .error refusal =>
      if refusal.isSilent then [.complain (marked false refusal.message)] else []
  opened ++ narrate 0 played.opening ++
    played.course.zipIdx.flatMap fun (m, i) =>
      ((Log.Record.ofOutcome? m.session.robot m.outcome).elim [] l.events) ++
        narrate (i + 1) m.calls

/-- The state a headless run comes to. One that is refused has never left the idle state. -/
def runState (s : Session) : RunState :=
  match s.play.result with
  | .ok state => state
  | .error _ => .idle

def runCode (s : Session) : UInt8 := if runState s = .completed then 0 else 1

def headless (l : Logger) (text : String) (track : Track) (timing : Timing) : Script :=
  match Program.parse text with
  | .error e => (Report.mk e.message none).script
  | .ok p =>
    let s := ((Session.new track timing).dispatchAll (p.instructions.map .append)).2
    l.log (.runRequested s.program s.robot.position)
      (.tellAll (runEvents l s) (.finish (runCode s)))

def withTrack (file : Option String) (preset : Option UInt64) (next : Track → Script) : Script :=
  match file, preset with
  | some path, _ =>
    .readFile path fun content =>
      match TrackFile.format.ofRead path content with
      | .error e => (Report.ofDocument e).script
      | .ok f => next f.cells
  | none, some index =>
    match Track.preset? index with
    | some track => next track
    | none => (Report.ofSource (.unknownPreset index)).script
  | none, none => .draw fun drawn => next (Track.presets.get drawn)

def validText (f : TrackFile) : String :=
  marked true ("Track file is valid: " ++ f.name ++ " (" ++ toString f.cells.count ++
    " traversable cells, start " ++ f.cells.start.text ++ ")")

def validate (l : Logger) (path : String) : Script :=
  .readFile path fun content =>
    match TrackFile.format.ofRead path content with
    | .ok f => .tell (.print (validText f)) (.finish 0)
    | .error e =>
      let record := Log.Record.validationFailed (Report.ofDocument e).line
      l.log record (.tell (.complain (marked false record.message)) (.finish 1))

def expand (text : String) : Script :=
  match Program.parse text with
  | .error e => (Report.mk e.message none).script
  | .ok p => .tell (.print (Program.write p.expand)) (.finish 0)

def exportPreset (index : UInt64) (name out : String) : Script :=
  let number := toString index.toNat
  match Track.preset? index with
  | none => (Report.ofFailure (.track ("Unknown preset " ++ number))).script
  | some track =>
    .writeFile out (TrackFile.format.text (TrackFile.new name track)) fun written =>
      match TrackFile.format.ofWritten out written with
      | .error e => (Report.ofDocument e).script
      | .ok () =>
        .tell (.print (marked true ("Preset " ++ number ++ " written to " ++ out))) (.finish 0)

/-- What comes of asking for the terminal. One that cannot be had says at which point it was
refused. On one that is opened the application is run, and all that it does to files goes
before what follows its end: the user has quit, or the terminal has failed on the way. -/
inductive Terminal where
  | withoutRawMode (reason : String)
  | withoutScreen (reason : String)
  | withoutDrawing (reason : String)
  | opened (visit : Logger → Settings → (Except String Unit → Script) → Script)

/-- Input and output that are no terminal. -/
def Terminal.absent : Terminal := .withoutRawMode "No such device or address (os error 6)"

def interact (terminal : Terminal) (l : Logger) (settings : Settings) : Script :=
  l.log .openingTerminal
    (match terminal with
    | .withoutRawMode reason =>
      (Report.ofFailure (.terminal ("Failed to enable raw mode: " ++ reason))).script
    | .withoutScreen reason =>
      (Report.ofFailure (.terminal ("Failed to enter alternate screen: " ++ reason))).script
    | .withoutDrawing reason => (Report.mk "Failed to create terminal" (some reason)).script
    | .opened visit =>
      visit l settings fun
        | .ok () => .finish 0
        | .error reason => (Report.mk reason none).script)

def carryOut (terminal : Terminal) (l : Logger) (settings : Settings) : Task → Script
  | .interact => interact terminal l settings
  | .run program file preset turn step =>
    let timing : Timing :=
      ⟨(turn.getD settings.turnDelay).toNat, (step.getD settings.stepDelay).toNat⟩
    withTrack file preset fun track => headless l program track timing
  | .expand text => expand text
  | .validate path => validate l path
  | .exportPreset index name out => exportPreset index name out

def withSettings (file : Option String) (next : Settings → Script) : Script :=
  match file with
  | none => next .standard
  | some path =>
    .readFile path fun content =>
      match Settings.format.ofRead path content with
      | .error e => (Report.ofDocument e).script
      | .ok s => next s

def started (terminal : Terminal) (l : Logger) (i : Invocation) : Script :=
  l.log .startingUp
    (withSettings i.config fun settings =>
      l.log (.settingsLoaded settings) (carryOut terminal l settings (i.task.getD .interact)))

namespace Invocation

/-- The log goes to its file if there is one. Otherwise it goes to the error output,
which the interactive front end needs for itself. -/
def sink (i : Invocation) : LogSink :=
  match i.logFile, i.task with
  | some path, _ => .file path
  | none, none | none, some .interact => .nowhere
  | none, some _ => .errors

def script (filter : Log.Filter) (terminal : Terminal) (i : Invocation) : Script :=
  match i.sink with
  | .file path =>
    .writeFile path "" fun
      | .error fault =>
        (Report.mk ("Failed to create log file " ++ Text.quoted path) (some fault.message)).script
      | .ok () => started terminal ⟨filter, i.sink⟩ i
  | _ => started terminal ⟨filter, i.sink⟩ i

end Invocation

def versionText : String := "trackbot 0.1.0"

def usageText : String :=
  "Program a robot to follow a track on a 4x5 grid\n\n" ++
  "Usage: trackbot [OPTIONS] [COMMAND]\n\n" ++
  "Commands:\n" ++
  "  tui       Launch the interactive terminal UI (default)\n" ++
  "  run       Run a program headlessly and print every step\n" ++
  "  expand    Print the expanded instruction sequence of a program\n" ++
  "  validate  Validate a track file\n" ++
  "  export    Write a built-in preset as a track file\n" ++
  "  help      Print this message or the help of the given subcommand(s)\n\n" ++
  "Options:\n" ++
  "      --config <CONFIG>      Simulator configuration file (JSON)\n" ++
  "      --log-file <LOG_FILE>  Write logs to this file (the TUI logs nowhere otherwise)\n" ++
  "  -h, --help                 Print help\n" ++
  "  -V, --version              Print version"

namespace UsageProblem

def message : UsageProblem → String
  | missingArgument => "a required argument was not given"
  | conflict => "arguments cannot be used together, or one was given twice"
  | unknownArgument => "unexpected argument"
  | missingValue => "an argument needs a value"
  | malformedValue => "a value is not a number in range"
  | unneededValue => "an argument takes no value"
  | unknownVerb => "unrecognized command"
  | helpAsked => usageText
  | versionAsked => versionText

def script (p : UsageProblem) : Script :=
  match p with
  | helpAsked | versionAsked => .tell (.print p.message) (.finish 0)
  | _ => .tell (.complain ("error: " ++ p.message ++ "\n\n" ++ usageText)) (.finish 2)

end UsageProblem

/-- The program, given what its surroundings say of the log and the arguments it is called
with. Without a word on the terminal there is none. -/
def script (filter : Option String) (args : List String) (terminal : Terminal := .absent) :
    Script :=
  match Invocation.read args with
  | .error p => p.script
  | .ok i => i.script (.ofSetting filter) terminal

end GridRobot.CommandLine
