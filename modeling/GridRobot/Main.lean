import GridRobot.CommandLine
import Std.Time.Format

/-! The program itself: a script carried out for real. Nothing is decided here. -/

namespace GridRobot.CommandLine

def faultOf : IO.Error → Directory.Fault
  | .noFileOrDirectory .. => .notFound
  | .inappropriateType _ code _ => if code = 21 then .isFolder else .notFolder
  | e => .other (toString e)

def readText (path : String) : IO (Except Directory.Fault String) := do
  try
    match String.fromUTF8? (← IO.FS.readBinFile path) with
    | some text => return .ok text
    | none => return .error .notUnicode
  catch e => return .error (faultOf e)

def writeText (path text : String) : IO (Except Directory.Fault Unit) := do
  try
    IO.FS.writeFile path text
    return .ok ()
  catch e => return .error (faultOf e)

def stamp : IO String := do
  let wall := Std.Time.WallTime.ofTimestamp (← Std.Time.Timestamp.now) Std.Time.TimeZone.UTC.offset
  let text := (Std.Time.PlainDateTime.ofWallTime wall).toLeanDateTimeString
  return String.ofList (text.toList.take 26) ++ "Z"

def stamped (r : Log.Record) : IO String :=
  return (← stamp) ++ " " ++ String.ofList (List.replicate (5 - r.level.name.length) ' ') ++ r.text

def wait (delay : Nat) : IO Unit := do
  let day := 86400000
  for _ in [0 : delay / day] do IO.sleep (UInt32.ofNat day)
  IO.sleep (UInt32.ofNat (delay % day))

def tell : Event → IO Unit
  | .print line => IO.println line
  | .complain text => IO.eprintln text
  | .pause delay => do
    (← IO.getStdout).flush
    wait delay
  | .record none r => do IO.eprintln (← stamped r)
  | .record (some path) r => do
    let line ← stamped r
    IO.FS.withFile path .append fun h => h.putStrLn line

def drawPreset : IO Draw := do
  let n ← IO.rand 0 2
  return Fin.ofNat 3 n

def carryOutFor : Script → IO UInt32
  | .finish code => return code.toUInt32
  | .tell event next => do
    tell event
    carryOutFor next
  | .readFile path next => do carryOutFor (next (← readText path))
  | .writeFile path text next => do carryOutFor (next (← writeText path text))
  | .draw next => do carryOutFor (next (← drawPreset))

end GridRobot.CommandLine

def main (args : List String) : IO UInt32 := do
  GridRobot.CommandLine.carryOutFor
    (GridRobot.CommandLine.script (← IO.getEnv "RUST_LOG") args)
