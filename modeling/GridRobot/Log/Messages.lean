import GridRobot.Log
import GridRobot.Settings

/-! What is said in the log: each message is a sentence and then its values by name. -/
namespace GridRobot.Log

def program : String := "trackbot"

def engine : String := program ++ "::engine"

namespace Record

def startingUp : Record := ⟨.info, program, "trackbot starting up", []⟩

def settingsText (s : Settings) : String :=
  "SimulatorConfig \x7b turn_delay_ms: " ++ toString s.turnDelay.toNat ++ ", step_delay_ms: " ++
    toString s.stepDelay.toNat ++ ", custom_track: " ++ Text.quoted s.customTrack ++ " \x7d"

def settingsLoaded (s : Settings) : Record :=
  ⟨.debug, program, "Configuration loaded", [("config", settingsText s)]⟩

def openingTerminal : Record := ⟨.debug, program, "Initializing terminal for TUI mode", []⟩

def runRequested (p : Program) (start : Position) : Record :=
  ⟨.info, program, "Running headless", [("program", p.text), ("start", start.text)]⟩

def runStarted (p : Program) (start : Position) : Record :=
  ⟨.info, engine, "Run started",
    [("program", p.text), ("expanded", toString p.expand.length), ("start", start.text)]⟩

def ofOutcome? (after : Robot) : StepOutcome → Option Record
  | .stepped index i r _ =>
    some ⟨.debug, engine, "Step",
      [("index", toString index), ("instruction", i.name), ("position", r.position.text),
       ("heading", r.heading.text)]⟩
  | .completed steps =>
    some ⟨.info, engine, "Run completed",
      [("steps", toString steps), ("end", after.position.text)]⟩
  | .failed e => some ⟨.info, engine, "Run failed", [("err", e.message)]⟩
  | .idle => none

def validationFailed (reason : String) : Record :=
  ⟨.error, program, "Track validation failed: " ++ reason, []⟩

end Record
end GridRobot.Log
