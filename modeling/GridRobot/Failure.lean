import GridRobot.Engine
import GridRobot.Program.Text

/-! Failures as users see them: one kind for each part of the program, with a text
that begins by naming the part. Errors of the parts turn into them at the edges. -/
namespace GridRobot

inductive Failure where
  | inputOutput (reason : String)
  | settings (reason : String)
  | track (reason : String)
  | program (word : UnknownWord)
  | run (reason : String)
  | terminal (reason : String)
  deriving DecidableEq, Repr

namespace Failure

def message : Failure → String
  | inputOutput reason => "IO error: " ++ reason
  | settings reason => "Configuration error: " ++ reason
  | track reason => "Track error: " ++ reason
  | program word => "Program error: " ++ word.message
  | run reason => "Run error: " ++ reason
  | terminal reason => "Terminal error: " ++ reason

def ofRefusal (r : RunRefusal) : Failure := .run r.message

def ofOffTrack (e : OffTrack) : Failure := .run e.message

end Failure
end GridRobot
