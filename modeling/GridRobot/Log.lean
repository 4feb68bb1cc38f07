/-! Log records. A record has a level, a target, which names the part of the program that
speaks, and a message, which is a sentence with named values after it. -/
namespace GridRobot.Log

inductive Level where
  | error | warn | info | debug | trace
  deriving DecidableEq, Repr

namespace Level

def name : Level → String
  | error => "ERROR"
  | warn => "WARN"
  | info => "INFO"
  | debug => "DEBUG"
  | trace => "TRACE"

def rank : Level → Nat
  | error => 1
  | warn => 2
  | info => 3
  | debug => 4
  | trace => 5

end Level

structure Record where
  level : Level
  target : String
  sentence : String
  values : List (String × String)
  deriving DecidableEq, Repr

namespace Record

def message (r : Record) : String :=
  r.values.foldl (fun s (name, value) => s ++ " " ++ name ++ "=" ++ value) r.sentence

def text (r : Record) : String := r.level.name ++ " " ++ r.target ++ ": " ++ r.message

def hasField (r : Record) (name : String) : Bool :=
  name == "message" || r.values.any (·.1 == name)

end Record
end GridRobot.Log
