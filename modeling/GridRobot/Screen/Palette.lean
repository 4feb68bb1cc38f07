import GridRobot.Screen.Line

/-! The colours of the screen and the brushes for its parts. -/
namespace GridRobot.Palette

def ground : Color := .rgb 20 20 30
def traversableCell : Color := .rgb 22 163 74
def emptyCell : Color := .rgb 45 45 60

def accent : Brush := .ink .cyan
def secondary : Brush := .ink .gray
def muted : Brush := .ink .darkGray
def highlight : Brush := .ink .yellow

def title : Brush := accent.strong
def key : Brush := highlight.strong

def border (active : Bool) : Brush := if active then accent else muted

def notice (success : Bool) : Brush := (Brush.ink (if success then .green else .red)).strong

def gridCell (traversable : Bool) : Brush :=
  { Brush.paper (if traversable then traversableCell else emptyCell) with fg := some .white }

def cursorCell (traversable : Bool) : Brush :=
  { gridCell traversable with fg := some .yellow, bold := true }

end GridRobot.Palette
