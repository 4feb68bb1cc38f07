import GridRobot.Screen.Rect
import GridRobot.Text.Cluster
import GridRobot.Text.Width

/-! Lines of text on a screen. A line is a list of symbols, the clusters of a text, each
with a brush that says how it changes the style of the cell it is drawn on. Lines are
measured in columns, cut to a width, and wrapped between words. -/
namespace GridRobot

inductive Color where
  | reset | white | gray | darkGray | cyan | yellow | green | red | magenta
  | rgb (r g b : UInt8)
  deriving DecidableEq, Repr

structure Style where
  fg : Color
  bg : Color
  bold : Bool
  deriving DecidableEq, Repr

structure Brush where
  fg : Option Color
  bg : Option Color
  bold : Bool
  deriving DecidableEq, Repr

namespace Brush

def plain : Brush := ⟨none, none, false⟩
def ink (c : Color) : Brush := { plain with fg := some c }
def paper (c : Color) : Brush := { plain with bg := some c }
def strong (b : Brush) : Brush := { b with bold := true }

end Brush

def Style.standard : Style := ⟨.reset, .reset, false⟩

def Style.brushed (s : Style) (b : Brush) : Style :=
  ⟨b.fg.getD s.fg, b.bg.getD s.bg, s.bold || b.bold⟩

structure Glyph where
  symbol : List Char
  brush : Brush
  deriving DecidableEq, Repr

def Glyph.width (g : Glyph) : Nat := Text.clusterWidth g.symbol

abbrev Line := List Glyph

namespace Line

def written (b : Brush) (text : String) : Line :=
  ((Text.clusters text.toList).filter (· != ['\n'])).map (⟨·, b⟩)

def width (l : Line) : Nat := l.foldr (fun g columns => g.width + columns) 0

def upTo (room : Nat) : Line → Line
  | [] => []
  | g :: gs => if g.width ≤ room then g :: upTo (room - g.width) gs else []

/-- A line cut to so many columns. A symbol that is wider than all of them is left out,
and the line goes on after it. -/
def fit (room : Nat) (l : Line) : Line := upTo room (l.filter (·.width ≤ room))

def columns (l : Line) : List (Option Glyph) :=
  l.flatMap fun g =>
    match g.width with
    | 0 => []
    | n + 1 => some g :: List.replicate n none

structure Piece where
  gap : Line
  word : Line
  deriving DecidableEq, Repr

def isGap (g : Glyph) : Bool := g.symbol == [' ']

def pieces (l : Line) : List Piece :=
  l.foldr (fun g ps =>
    match ps with
    | [] => if isGap g then [⟨[g], []⟩] else [⟨[], [g]⟩]
    | p :: rest =>
      if isGap g then ⟨g :: p.gap, p.word⟩ :: rest
      else if p.gap.isEmpty then ⟨[], g :: p.word⟩ :: rest
      else ⟨[], [g]⟩ :: p :: rest) []

/-- Goes on with pieces after a line that has been begun. A word that does not fit
begins a new line without the spaces before it. -/
def wrapAfter (room : Nat) (begun : Line) : List Piece → List Line
  | [] => [begun]
  | p :: rest =>
    if p.word.isEmpty || width begun + width p.gap + width p.word ≤ room then
      wrapAfter room (begun ++ p.gap ++ p.word) rest
    else begun :: wrapAfter room p.word rest

def wrap (room : Nat) (l : Line) : List Line :=
  match pieces l with
  | [] => [[]]
  | p :: rest => wrapAfter room (p.gap ++ p.word) rest

end Line
end GridRobot
