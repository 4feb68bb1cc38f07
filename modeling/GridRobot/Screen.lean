import GridRobot.App
import GridRobot.Keyboard.Hints
import GridRobot.Screen.Palette
import GridRobot.Screen.Picture

/-! The screen of the application. From the top: a title with the state of the run, the
grid, the program, the status line and the short line of keys; the help, when it is
open, covers their middle. What is drawn depends on the application alone. -/
namespace GridRobot

namespace Screen

open Line (written)

def titleRows : UInt16 := 3
def gridRows : UInt16 := 11
def otherRows : UInt16 := 16

def titleArea (screen : Rect) : Rect := ⟨screen.x, screen.y, screen.width, titleRows⟩

def gridArea (screen : Rect) : Rect := ⟨screen.x, screen.y + titleRows, screen.width, gridRows⟩

def programArea (screen : Rect) : Rect :=
  ⟨screen.x, screen.y + titleRows + gridRows, screen.width, screen.height - otherRows⟩

def statusArea (screen : Rect) : Rect := ⟨screen.x, screen.y + screen.height - 2, screen.width, 1⟩

def keysArea (screen : Rect) : Rect := ⟨screen.x, screen.y + screen.height - 1, screen.width, 1⟩

def stateBrush : RunState → Brush
  | .idle => Palette.secondary
  | .running => Palette.accent
  | .failed => .ink .red
  | .completed => .ink .green

def isEditing (a : App) : Bool := a.mode == .configuring

def titleLine (a : App) : Line :=
  written Palette.title "trackbot" ++ written .plain "  " ++
    written (stateBrush a.session.state) a.session.state.name ++
    (if isEditing a then written .plain "  " ++ written Palette.highlight "[editing track]" else [])

def drawTitle (screen : Rect) (a : App) (p : Picture) : Picture :=
  (p.box (titleArea screen) (Palette.border false) "").lines (titleArea screen).inner .middle
    [titleLine a]

def cellSymbol (a : App) (q : Position) : Char :=
  if q = a.session.robot.position then a.session.robot.heading.arrow
  else if isEditing a && q == a.cursor then '+'
  else ' '

def cellBrush (a : App) (q : Position) : Brush :=
  if isEditing a && q == a.cursor then Palette.cursorCell (a.session.track.traversable q)
  else Palette.gridCell (a.session.track.traversable q)

def gridCell (a : App) (q : Position) : Line :=
  [' ', ' ', cellSymbol a q, ' ', ' '].map (⟨[·], cellBrush a q⟩) ++ written .plain " "

def gridLine (a : App) (row : Nat) : Line :=
  (List.range Grid.cols).flatMap fun col => gridCell a ⟨UInt64.ofNat row, UInt64.ofNat col⟩

def robotLine (r : Robot) : Line :=
  written Palette.muted "Robot " ++
    written Palette.secondary (r.position.text ++ " facing " ++ r.heading.text)

def gridLines (a : App) : List Line :=
  ((List.range Grid.rows).flatMap fun row => [gridLine a row, []]) ++ [robotLine a.session.robot]

def drawGrid (screen : Rect) (a : App) (p : Picture) : Picture :=
  (p.box (gridArea screen) (Palette.border (isEditing a)) " Track ").lines (gridArea screen).inner
    .middle (gridLines a)

def chipText : Instruction → String
  | .turnLeft => "[↺]"
  | .turnRight => "[↻]"
  | .advance => "[↑]"
  | .loopStart => "[loop]"
  | .loopEnd => "[end]"

def chipBrush (i : Instruction) : Brush :=
  if i.isMotion then Palette.accent.strong else (Brush.ink .magenta).strong

def chip (i : Instruction) : Line := written (chipBrush i) (chipText i) ++ written .plain " "

def programLines (p : Program) : List Line :=
  match p.instructions.getLast? with
  | none =>
    [written Palette.muted "No instructions yet. Use the arrow keys and [ ] to build a program."]
  | some last =>
    [p.instructions.flatMap chip, written Palette.muted ("Last added: " ++ last.label)]

def programTitle (p : Program) : String :=
  " Program (" ++ toString p.expand.length ++ " steps) "

def wrapped (area : Rect) (ls : List Line) : List Line := ls.flatMap (Line.wrap area.width.toNat)

def drawProgram (screen : Rect) (a : App) (p : Picture) : Picture :=
  let area := programArea screen
  (p.box area (Palette.border (!isEditing a)) (programTitle a.session.program)).lines area.inner
    .leftmost (wrapped area.inner (programLines a.session.program))

def drawStatus (screen : Rect) (a : App) (p : Picture) : Picture :=
  match a.notice with
  | some n => p.lines (statusArea screen) .middle [written (Palette.notice n.success) n.text]
  | none => p

def hintLine (h : Hint) : Line :=
  written Palette.key h.key ++ written .plain " " ++ written Palette.secondary h.label

def keysLine (m : Mode) : Line :=
  (written Palette.muted " | ").intercalate (m.shortHints.map hintLine)

def drawKeys (screen : Rect) (a : App) (p : Picture) : Picture :=
  p.lines (keysArea screen) .leftmost [keysLine a.mode]

def keyColumn (key : String) : String :=
  "  " ++ String.ofList (List.replicate (8 - key.length) ' ') ++ key

def helpLine (h : Hint) : Line :=
  written Palette.key (keyColumn h.key) ++ written .plain "  " ++ written Palette.secondary h.label

def sectionLines (s : HelpSection) : List Line :=
  written Palette.title (s.title ++ ":") :: s.hints.map helpLine ++ [[]]

def helpLines (m : Mode) : List Line :=
  [written Palette.title "  trackbot Help  ", [],
   written Palette.secondary "Mode: " ++ written Palette.highlight m.title, []] ++
  m.helpSections.flatMap sectionLines ++
  [written Palette.muted "Loops repeat their body twice; an unclosed loop runs once."]

def helpArea (screen : Rect) : Rect := Rect.centred 60 80 screen

def drawHelp (screen : Rect) (m : Mode) (p : Picture) : Picture :=
  let area := helpArea screen
  (((p.clear area).tint area (.paper Palette.ground)).box area (Palette.border true) " Help ").lines
    area.inner .leftmost (wrapped area.inner (helpLines m))

end Screen

open Screen in
def App.draw (a : App) (width height : UInt16) : Picture :=
  let screen : Rect := ⟨0, 0, width, height⟩
  let board := Picture.blank |> drawTitle screen a |> drawGrid screen a |> drawProgram screen a |>
    drawStatus screen a |> drawKeys screen a
  if a.helpVisible then drawHelp screen a.mode board else board

end GridRobot
