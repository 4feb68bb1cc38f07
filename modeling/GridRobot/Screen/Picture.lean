import GridRobot.Screen.Line

/-! Pictures. A picture gives every cell of the screen a symbol and a style. Drawing
changes some cells and leaves all others as they were; each way of drawing says which
cells it changes. -/
namespace GridRobot

structure Cell where
  symbol : List Char
  style : Style
  deriving DecidableEq, Repr

namespace Cell

def blank : Cell := ⟨[' '], .standard⟩

def brushed (c : Cell) (b : Brush) : Cell := { c with style := c.style.brushed b }

def drawn (c : Cell) (g : Glyph) : Cell := ⟨g.symbol, c.style.brushed g.brush⟩

end Cell

structure Picture where
  cell : Nat → Nat → Cell

inductive Alignment where
  | leftmost | middle
  deriving DecidableEq, Repr

namespace Picture

def blank : Picture := ⟨fun _ _ => .blank⟩

def clear (r : Rect) (p : Picture) : Picture :=
  ⟨fun x y => if r.contains x y then .blank else p.cell x y⟩

def tint (r : Rect) (b : Brush) (p : Picture) : Picture :=
  ⟨fun x y => if r.contains x y then (p.cell x y).brushed b else p.cell x y⟩

def strip (x y : Nat) (glyphs : List (Option Glyph)) (p : Picture) : Picture :=
  ⟨fun x' y' =>
    if y' = y ∧ x ≤ x' then
      match glyphs[x' - x]? with
      | some (some g) => (p.cell x' y').drawn g
      | _ => p.cell x' y'
    else p.cell x' y'⟩

def offset (room width : Nat) : Alignment → Nat
  | .leftmost => 0
  | .middle => room / 2 - width / 2

def line (r : Rect) (row : Nat) (a : Alignment) (l : Line) (p : Picture) : Picture :=
  let shown := l.fit r.width.toNat
  p.strip (r.left + offset r.width.toNat shown.width a) (r.top + row) shown.columns

def lines (r : Rect) (a : Alignment) (ls : List Line) (p : Picture) : Picture :=
  ((ls.take r.height.toNat).zipIdx).foldl (fun p (l, row) => p.line r row a l) p

def borderSymbol? (r : Rect) (x y : Nat) : Option Char :=
  if !r.contains x y then none
  else
    let atLeft := x = r.left
    let atRight := x + 1 = r.right
    let atTop := y = r.top
    let atBottom := y + 1 = r.bottom
    if atTop then some (if atLeft then '┌' else if atRight then '┐' else '─')
    else if atBottom then some (if atLeft then '└' else if atRight then '┘' else '─')
    else if atLeft ∨ atRight then some '│'
    else none

def border (r : Rect) (b : Brush) (p : Picture) : Picture :=
  ⟨fun x y =>
    match borderSymbol? r x y with
    | some symbol => (p.cell x y).drawn ⟨[symbol], b⟩
    | none => p.cell x y⟩

/-- Where a box has its title, which a box without rows has nowhere. -/
def titleRow (r : Rect) : Rect := ⟨r.x + 1, r.y, r.inner.width, min 1 r.height⟩

def box (r : Rect) (b : Brush) (title : String) (p : Picture) : Picture :=
  (p.border r b).lines (titleRow r) .leftmost [.written .plain title]

def rows (p : Picture) (width height : Nat) : List (List Cell) :=
  (List.range height).map fun y => (List.range width).map fun x => p.cell x y

end Picture

def rowText (cells : List Cell) : String :=
  String.ofList ((cells.flatMap Cell.symbol).reverse.dropWhile (· == ' ')).reverse

end GridRobot
