import GridRobot.Text.Pieces

/-! Directories. A directory is a folder to work in, with all the files and folders that
are known around it, each in the place that its names lead to from the root. A path is
followed name by name, from the root if it begins with a slash and from the directory
otherwise: everything before its last name has to be a folder, and so has the last one
if a slash comes after it. Two points lead from a folder to the one it is in; the root
is in itself. Reading gives text, so a file with other bytes in it cannot be read;
writing replaces what was there. A file may also be sealed: then the system opens it
for nobody. -/
namespace GridRobot

inductive Entry where
  | file (bytes : Array UInt8)
  | folder
  | sealed (reason : String)
  deriving DecidableEq

structure Directory where
  here : List String
  entries : List (List String × Entry)
  deriving DecidableEq

namespace Directory

inductive Fault where
  | notFound
  | isFolder
  | notFolder
  | nameTooLong
  | nulInName
  | notUnicode
  | other (reason : String)
  deriving DecidableEq, Repr

def Fault.message : Fault → String
  | notFound => "No such file or directory (os error 2)"
  | isFolder => "Is a directory (os error 21)"
  | notFolder => "Not a directory (os error 20)"
  | nameTooLong => "File name too long (os error 36)"
  | nulInName => "file name contained an unexpected NUL byte"
  | notUnicode => "stream did not contain valid UTF-8"
  | other reason => reason

/-- A directory in the root, with nothing in it. -/
def empty : Directory := ⟨["work"], []⟩

/-- What is found in a place. The directory itself and the folders that it is in are no
entries: they are always there. -/
def entry? (d : Directory) (place : List String) : Option Entry :=
  if place.isPrefixOf d.here then some .folder else d.entries.lookup place

def set (d : Directory) (place : List String) (e : Entry) : Directory :=
  { d with entries := (place, e) :: d.entries.filter (·.1 != place) }

/-- Puts an entry into the directory, or into a folder in it. -/
def put (d : Directory) (names : List String) (e : Entry) : Directory := d.set (d.here ++ names) e

def erase (d : Directory) (place : List String) : Directory :=
  { d with entries := d.entries.filter (·.1 != place) }

def names (path : String) : List String :=
  ((Text.pieces '/' path.toList).filter (!·.isEmpty)).map String.ofList

def endsInSlash (path : String) : Bool := path.toList.getLast? == some '/'

def enter (folder : List String) (name : String) : List String :=
  if name == "." then folder
  else if name == ".." then folder.dropLast
  else folder ++ [name]

def longestName : Nat := 255

def tooLongPath : Nat := 4096

def follow (d : Directory) (folder : List String) : List String → Except Fault (List String)
  | [] => .ok folder
  | name :: rest =>
    if longestName < name.utf8ByteSize then .error .nameTooLong
    else
      match d.entry? (enter folder name) with
      | some .folder => follow d (enter folder name) rest
      | some _ => .error .notFolder
      | none => .error .notFound

/-- The folder from which a path is followed. -/
def origin (d : Directory) (path : String) : List String :=
  if path.toList.head? == some '/' then [] else d.here

/-- The folder that a path leads to, and the name in it. Slashes alone lead to the root
itself. -/
def locate (d : Directory) (path : String) : Except Fault (List String × String) :=
  if path.toList.contains '\x00' then .error .nulInName
  else if tooLongPath ≤ path.utf8ByteSize then .error .nameTooLong
  else if path.isEmpty then .error .notFound
  else
    (d.follow (d.origin path) (names path).dropLast).map (·, (names path).getLast?.getD ".")

def find (d : Directory) (path : String) : Except Fault (List String × Entry) := do
  let (folder, last) ← d.locate path
  if longestName < last.utf8ByteSize then throw .nameTooLong
  match d.entry? (enter folder last) with
  | none => throw .notFound
  | some .folder => return (enter folder last, .folder)
  | some file =>
    if endsInSlash path then throw .notFolder
    return (enter folder last, file)

def isFile (d : Directory) (path : String) : Bool :=
  match d.find path with
  | .ok (_, .file _) | .ok (_, .sealed _) => true
  | _ => false

def read (d : Directory) (path : String) : Except Fault String := do
  match ← d.find path with
  | (_, .folder) => throw .isFolder
  | (_, .sealed reason) => throw (.other reason)
  | (_, .file bytes) =>
    match String.fromUTF8? ⟨bytes⟩ with
    | some text => return text
    | none => throw .notUnicode

/-- Puts a file with the given text where a path leads; its folder has to be there, and
no folder or sealed file may be in its place. A path that ends in a slash asks for a
folder. -/
def write (d : Directory) (path : String) (text : String) : Except Fault Directory := do
  let (folder, last) ← d.locate path
  if endsInSlash path then throw .isFolder
  if longestName < last.utf8ByteSize then throw .nameTooLong
  match d.entry? (enter folder last) with
  | some .folder => throw .isFolder
  | some (.sealed reason) => throw (.other reason)
  | _ => return d.set (enter folder last) (.file text.toUTF8.data)

def remove? (d : Directory) (path : String) : Option Directory :=
  match d.find path with
  | .ok (place, .file _) | .ok (place, .sealed _) => some (d.erase place)
  | _ => none

end Directory
end GridRobot
