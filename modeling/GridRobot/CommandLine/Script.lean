import GridRobot.Directory
import GridRobot.Log
import GridRobot.Track.Source

/-! Scripts. A script is what a command does, one thing after another: it tells events,
reads and writes files, draws at random, and ends with an exit code. Performing it in
a directory gives all its events and the directory left behind. -/
namespace GridRobot.CommandLine

inductive Event where
  | print (line : String)
  | complain (text : String)
  | pause (delay : Nat)
  | record (file : Option String) (record : Log.Record)
  deriving DecidableEq, Repr

inductive Script where
  | finish (code : UInt8)
  | tell (event : Event) (next : Script)
  | readFile (path : String) (next : Except Directory.Fault String → Script)
  | writeFile (path text : String) (next : Except Directory.Fault Unit → Script)
  | draw (next : Draw → Script)

structure Transcript where
  events : List Event
  code : UInt8
  directory : Directory

namespace Script

def tellAll (events : List Event) (next : Script) : Script := events.foldr .tell next

def perform (draw : Draw) (d : Directory) : Script → Transcript
  | .finish code => ⟨[], code, d⟩
  | .tell event next =>
    let rest := next.perform draw d
    { rest with events := event :: rest.events }
  | .readFile path next => (next (d.read path)).perform draw d
  | .writeFile path text next =>
    match d.write path text with
    | .ok d' => (next (.ok ())).perform draw d'
    | .error fault => (next (.error fault)).perform draw d
  | .draw next => (next draw).perform draw d

end Script

namespace Transcript

def printed (t : Transcript) : List String :=
  t.events.filterMap fun
    | .print line => some line
    | _ => none

def complaints (t : Transcript) : List String :=
  t.events.filterMap fun
    | .complain text => some text
    | _ => none

def logged (t : Transcript) : List Log.Record :=
  t.events.filterMap fun
    | .record (some _) r => some r
    | _ => none

def output (t : Transcript) : String := String.join (t.printed.map (· ++ "\n"))

def errorOutput (t : Transcript) : String := String.join (t.complaints.map (· ++ "\n"))

end Transcript
end GridRobot.CommandLine
