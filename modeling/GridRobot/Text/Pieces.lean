/-! Text cut at a separator. Each separator ends one piece and begins another. -/
namespace GridRobot.Text

def pieces (separator : Char) : List Char → List (List Char)
  | [] => [[]]
  | c :: cs =>
    if c = separator then [] :: pieces separator cs
    else
      match pieces separator cs with
      | [] => [[c]]
      | w :: ws => (c :: w) :: ws

end GridRobot.Text
