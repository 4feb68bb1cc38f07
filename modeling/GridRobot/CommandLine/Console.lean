import GridRobot.CommandLine.Script
import GridRobot.Session.Play

/-! A run told line by line: every drawing of the robot is a numbered line with its place,
every notice a line with a mark, and every pause a pause. -/
namespace GridRobot.CommandLine

def mark (success : Bool) : String := if success then "✓" else "✗"

def marked (success : Bool) (text : String) : String := mark success ++ " " ++ text

def noticeLine (n : Notice) : String := marked n.success n.text

def numberColumn (n : Nat) : String :=
  let digits := toString n
  String.ofList (List.replicate (3 - digits.length) ' ') ++ digits

def robotLine (n : Nat) (r : Robot) : String :=
  numberColumn n ++ "  " ++ String.singleton r.heading.arrow ++ " " ++ r.position.text ++
    " facing " ++ r.heading.text

def narrate : Nat → List Call → List Event
  | _, [] => []
  | n, .render _ robot :: calls => .print (robotLine n robot) :: narrate (n + 1) calls
  | n, .notify notice :: calls => .print (noticeLine notice) :: narrate n calls
  | n, .sleep delay :: calls => .pause delay :: narrate n calls
  | n, _ :: calls => narrate n calls

end GridRobot.CommandLine
