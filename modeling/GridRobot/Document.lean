import GridRobot.Directory
import GridRobot.Failure
import GridRobot.Json.Record
import GridRobot.Json.Value

/-! Documents in files. A document is saved in spread form and loaded by reading its
text, then its value, then checking the value; each of these may fail, and the error
tells which did. -/
namespace GridRobot

inductive DocumentKind where
  | track | settings
  deriving DecidableEq, Repr

def DocumentKind.noun : DocumentKind → String
  | track => "track"
  | settings => "configuration"

inductive DocumentError where
  | unreadable (kind : DocumentKind) (path : String) (fault : Directory.Fault)
  | unwritable (kind : DocumentKind) (path : String) (fault : Directory.Fault)
  | unparsable (kind : DocumentKind) (problem : Json.Located)
  | invalid (failure : Failure)
  deriving DecidableEq, Repr

namespace DocumentError

def message : DocumentError → String
  | unreadable kind path _ => "Failed to read " ++ kind.noun ++ " from " ++ Text.quoted path
  | unwritable kind path _ => "Failed to write " ++ kind.noun ++ " to " ++ Text.quoted path
  | unparsable kind _ => "Failed to parse " ++ kind.noun ++ " JSON"
  | invalid failure => failure.message

def cause? : DocumentError → Option String
  | unreadable _ _ fault | unwritable _ _ fault => some fault.message
  | unparsable _ problem => some problem.message
  | invalid _ => none

end DocumentError

structure DocumentFormat (α : Type) where
  kind : DocumentKind
  value : α → Json.Value
  reader : Json.Reader α
  validate : α → Except Failure Unit

namespace DocumentFormat

variable {α : Type} (f : DocumentFormat α)

def text (a : α) : String := (f.value a).spreadText

def parse (text : String) : Except DocumentError α :=
  match f.reader.document text with
  | .error problem => .error (.unparsable f.kind problem)
  | .ok a =>
    match f.validate a with
    | .error failure => .error (.invalid failure)
    | .ok () => .ok a

def ofRead (path : String) (content : Except Directory.Fault String) : Except DocumentError α :=
  match content with
  | .error fault => .error (.unreadable f.kind path fault)
  | .ok text => f.parse text

def ofWritten {β : Type} (path : String) (written : Except Directory.Fault β) :
    Except DocumentError β :=
  match written with
  | .error fault => .error (.unwritable f.kind path fault)
  | .ok b => .ok b

def load (d : Directory) (path : String) : Except DocumentError α := f.ofRead path (d.read path)

def save (a : α) (d : Directory) (path : String) : Except DocumentError Directory :=
  f.ofWritten path (d.write path (f.text a))

end DocumentFormat
end GridRobot
