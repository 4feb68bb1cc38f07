import GridRobot.Keyboard

/-! What is shown about the keys: a short line of hints, in the order of their
importance, and the sections of the help. Both are drawn from the bindings of the
mode, so they name no key that does nothing. -/
namespace GridRobot

structure Hint where
  key : String
  label : String
  deriving DecidableEq, Repr

inductive HelpTopic where
  | program | track | general
  deriving DecidableEq, Repr

def HelpTopic.title : HelpTopic → String
  | program => "Program"
  | track => "Track"
  | general => "General"

def Action.topic : Action → HelpTopic
  | turnLeft | turnRight | forward | loopStart | loopEnd | run | clearProgram => .program
  | resetBoard | randomTrack | toggleConfig | cursorUp | cursorDown | cursorLeft | cursorRight
  | toggleCell | saveTrack => .track
  | help | dismiss | quit => .general

structure HelpSection where
  title : String
  hints : List Hint
  deriving DecidableEq, Repr

namespace Binding

def hint (b : Binding) : Hint := ⟨b.shown, b.description⟩

def shortHint (b : Binding) : Hint :=
  match b.action with
  | .turnLeft => ⟨"Left/Right/Up", "Move"⟩
  | .loopStart => ⟨"[ ]", "Loop"⟩
  | .cursorUp => ⟨"Arrows", "Cursor"⟩
  | _ => b.hint

end Binding

namespace Mode

def mainActions : Mode → List Action
  | programming =>
    [.turnLeft, .forward, .loopStart, .run, .clearProgram, .toggleConfig, .help, .quit]
  | configuring => [.cursorUp, .toggleCell, .saveTrack, .toggleConfig, .help, .quit]

def shortHints (m : Mode) : List Hint :=
  m.mainActions.filterMap fun a => (m.bindings.find? (·.action == a)).map Binding.shortHint

def helpSection (m : Mode) (topic : HelpTopic) : HelpSection :=
  ⟨topic.title, (m.bindings.filter (·.action.topic == topic)).map Binding.hint⟩

def helpSections (m : Mode) : List HelpSection :=
  ([HelpTopic.program, .track, .general].map m.helpSection).filter (!·.hints.isEmpty)

def title : Mode → String
  | programming => "Programming"
  | configuring => "Editing track"

end Mode
end GridRobot
