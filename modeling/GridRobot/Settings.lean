import GridRobot.Document
import GridRobot.Timing

/-! Settings: the two pauses of playback and the place of the custom track. Every
member of a settings document may be left out and then has its standard value; a
pause is at most ten seconds and the place is not empty. -/
namespace GridRobot

open Json (Value Reader RecordField Problem)

structure Settings where
  turnDelay : UInt64
  stepDelay : UInt64
  customTrack : String
  deriving DecidableEq, Repr

namespace Settings

def standard : Settings := ⟨440, 600, "trackbot-track.json"⟩

def longestDelay : Nat := 10000

def tooLong (name : String) : Failure :=
  .settings (name ++ " must be at most " ++ toString longestDelay ++ " ms")

def validate (s : Settings) : Except Failure Unit :=
  if longestDelay < s.turnDelay.toNat then .error (tooLong "turn_delay_ms")
  else if longestDelay < s.stepDelay.toNat then .error (tooLong "step_delay_ms")
  else if s.customTrack.isEmpty then .error (.settings "custom_track must not be empty")
  else .ok ()

def value (s : Settings) : Value :=
  .object [("turn_delay_ms", .number s.turnDelay.toNat),
    ("step_delay_ms", .number s.stepDelay.toNat), ("custom_track", .text s.customTrack)]

structure Draft where
  turnDelay : Option UInt64
  stepDelay : Option UInt64
  customTrack : Option String

def fields : List (RecordField Draft) :=
  [⟨"turn_delay_ms", (·.turnDelay.isSome),
    fun d => (Reader.word "u64").map fun n => { d with turnDelay := some n }⟩,
   ⟨"step_delay_ms", (·.stepDelay.isSome),
    fun d => (Reader.word "u64").map fun n => { d with stepDelay := some n }⟩,
   ⟨"custom_track", (·.customTrack.isSome),
    fun d => (Reader.text "path string").map fun s => { d with customTrack := some s }⟩]

def Draft.finish (d : Draft) : Settings :=
  ⟨d.turnDelay.getD standard.turnDelay, d.stepDelay.getD standard.stepDelay,
    d.customTrack.getD standard.customTrack⟩

def reader : Reader Settings :=
  (Reader.record "struct SimulatorConfig" fields none ⟨none, none, none⟩).map Draft.finish

def format : DocumentFormat Settings := ⟨.settings, value, reader, validate⟩

def load (d : Directory) (path : String) : Except DocumentError Settings := format.load d path

def loadOrStandard (d : Directory) : Option String → Except DocumentError Settings
  | some path => load d path
  | none => .ok standard

def save (s : Settings) (d : Directory) (path : String) : Except DocumentError Directory :=
  format.save s d path

def timing (s : Settings) : Timing := ⟨s.turnDelay.toNat, s.stepDelay.toNat⟩

end Settings
end GridRobot
