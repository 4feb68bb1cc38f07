/-! Keys. A key press is a key and the modifiers held with it. What it means depends on
the mode: each mode has bindings of its own and shares the global ones. A binding
whose modifiers are the ones held is preferred; failing that, a press with shift
alone finds any binding of its key. -/
namespace GridRobot

/-- The keys without a name here are told apart by a number. -/
inductive Key where
  | char (c : Char)
  | left | right | up | down
  | enter | escape | tab | backTab | backspace | delete | home | f1
  | other (code : Nat)
  deriving DecidableEq, Repr

/-- The modifiers that few keyboards have. Super, the most common of them, may be given
alone. -/
structure RareModifiers where
  super : Bool
  hyper : Bool
  metaKey : Bool
  deriving DecidableEq, Repr

instance : Coe Bool RareModifiers := ⟨fun super => ⟨super, false, false⟩⟩

structure Modifiers where
  shift : Bool
  ctrl : Bool
  alt : Bool
  rare : RareModifiers
  deriving DecidableEq, Repr

namespace Modifiers

def none : Modifiers := ⟨false, false, false, false⟩
def shiftOnly : Modifiers := { none with shift := true }
def ctrlOnly : Modifiers := { none with ctrl := true }

end Modifiers

inductive Mode where
  | programming | configuring
  deriving DecidableEq, Repr

inductive Action where
  | turnLeft | turnRight | forward | loopStart | loopEnd
  | run | clearProgram | resetBoard | randomTrack | toggleConfig
  | cursorUp | cursorDown | cursorLeft | cursorRight | toggleCell | saveTrack
  | help | dismiss | quit
  deriving DecidableEq, Repr

structure Binding where
  key : Key
  modifiers : Modifiers
  action : Action
  shown : String
  description : String
  deriving DecidableEq, Repr

namespace Binding

def plain (key : Key) (action : Action) (shown description : String) : Binding :=
  ⟨key, .none, action, shown, description⟩

def isExactly (b : Binding) (key : Key) (held : Modifiers) : Bool :=
  b.key == key && b.modifiers == held

/-- Shift may be part of how a character is typed, so alone it hides no binding. -/
def isShifted (b : Binding) (key : Key) (held : Modifiers) : Bool :=
  b.key == key && held == .shiftOnly

end Binding

namespace Mode

def globalBindings : List Binding :=
  [.plain (.char '?') .help "?" "Help",
   .plain .escape .dismiss "Esc" "Close help",
   .plain (.char 'q') .quit "Q" "Quit",
   ⟨.char 'c', .ctrlOnly, .quit, "Ctrl+C", "Quit"⟩]

def ownBindings : Mode → List Binding
  | programming =>
    [.plain .left .turnLeft "Left" "Turn left",
     .plain .right .turnRight "Right" "Turn right",
     .plain .up .forward "Up" "Forward",
     .plain (.char 'f') .forward "F" "Forward",
     .plain (.char '[') .loopStart "[" "Loop start",
     .plain (.char ']') .loopEnd "]" "Loop end",
     .plain .enter .run "Enter" "Run",
     .plain (.char 'c') .clearProgram "C" "Clear program",
     .plain (.char 'n') .resetBoard "N" "Reset board",
     .plain (.char 'r') .randomTrack "R" "Random track",
     .plain (.char 'e') .toggleConfig "E" "Edit track"]
  | configuring =>
    [.plain .up .cursorUp "Up" "Cursor up",
     .plain .down .cursorDown "Down" "Cursor down",
     .plain .left .cursorLeft "Left" "Cursor left",
     .plain .right .cursorRight "Right" "Cursor right",
     .plain (.char ' ') .toggleCell "Space" "Toggle cell",
     .plain (.char 's') .saveTrack "S" "Save track",
     .plain (.char 'e') .toggleConfig "E" "Done editing"]

def bindings (m : Mode) : List Binding := m.ownBindings ++ globalBindings

def lookup (m : Mode) (key : Key) (held : Modifiers) : Option Action :=
  ((m.bindings.find? (·.isExactly key held)).or (m.bindings.find? (·.isShifted key held))).map
    (·.action)

end Mode
end GridRobot
