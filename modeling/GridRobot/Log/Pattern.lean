import GridRobot.Log.Pattern.Class
import GridRobot.Text.Alphanumeric

/-! Patterns that the value of a field may be asked to match. Only their form matters
here: groups and classes are closed, what is repeated is there, escapes are known ones,
ranges run upwards, nothing is nested too deeply, and all of it is supported. An equals
sign, a comma and a closing brace do not come this far, so that nothing is said about
them but that an opening brace counts something and is never closed. -/
namespace GridRobot.Log.Pattern

def deepest : Nat := 250

structure Piece where
  depth : Nat
  repeatable : Bool
  deriving DecidableEq, Repr

structure Level where
  outside : Flags
  branches : List Nat
  pieces : List Piece
  deriving DecidableEq, Repr

namespace Level

def add (l : Level) (p : Piece) : Level := { l with pieces := p :: l.pieces }

/-- A row of pieces is one level deeper than they are, unless it is one piece. -/
def lastBranch (l : Level) : Nat :=
  match l.pieces with
  | [] => 0
  | [p] => p.depth
  | ps => 1 + ps.foldl (fun n p => max n p.depth) 0

def depth (l : Level) : Nat :=
  if l.branches.isEmpty then l.lastBranch else 1 + l.branches.foldl max l.lastBranch

end Level

structure Reading where
  flags : Flags
  level : Level
  outer : List Level
  names : List (List Char)
  deriving DecidableEq, Repr

namespace Reading

def start : Reading := ⟨.standard, ⟨.standard, [], []⟩, [], []⟩

def add (r : Reading) (depth : Nat) : Reading := { r with level := r.level.add ⟨depth, true⟩ }

def openGroup (r : Reading) (flags : Flags) : Reading :=
  { r with flags := flags, level := ⟨r.flags, [], []⟩, outer := r.level :: r.outer }

def closeGroup? (r : Reading) : Option Reading :=
  match r.outer with
  | [] => none
  | around :: outer =>
    some { r with
      flags := r.level.outside, level := around.add ⟨r.level.depth + 1, true⟩, outer := outer }

def branch (r : Reading) : Reading :=
  { r with level := ⟨r.level.outside, r.level.lastBranch :: r.level.branches, []⟩ }

def repeat? (r : Reading) : Option Reading :=
  match r.level.pieces with
  | ⟨depth, true⟩ :: ps =>
    some { r with level := { r.level with pieces := ⟨depth + 1, true⟩ :: ps } }
  | _ => none

end Reading

def areFlags (letters : List Char) : Bool :=
  letters.all (['i', 'm', 's', 'U', 'u', 'R', 'x', '-'].contains ·) &&
    letters.eraseDups == letters && letters.getLast? != some '-'

def Flags.set (f : Flags) (letters : List Char) : Flags :=
  let given := letters.takeWhile (· != '-')
  let now (letter : Char) (before : Bool) : Bool :=
    if letters.contains letter then given.contains letter else before
  ⟨now 'x' f.spaced, now 'i' f.caseless, now 'u' f.unicode⟩

def isName : List Char → Bool
  | [] => false
  | c :: cs =>
    (Text.isAlphabetic c || c == '_') &&
      cs.all fun c => Text.isAlphanumeric c || ['_', '.', '[', ']'].contains c

def group? (r : Reading) (text : List Char) : Option (Reading × List Char) :=
  match r.flags.next text with
  | '?' :: 'P' :: '<' :: rest | '?' :: '<' :: rest =>
    let name := rest.takeWhile (· != '>')
    if isName name && !r.names.contains name && name.length < rest.length then
      some ({ r.openGroup r.flags with names := name :: r.names }, rest.drop (name.length + 1))
    else none
  | '?' :: rest =>
    let letters := rest.takeWhile fun c => c != ':' && c != ')'
    if !areFlags letters then none
    else
      match rest.drop letters.length with
      | ':' :: rest => some (r.openGroup (r.flags.set letters), rest)
      | ')' :: rest =>
        if letters.isEmpty then none
        else
          some ({ r with flags := r.flags.set letters, level := r.level.add ⟨0, false⟩ }, rest)
      | _ => none
  | rest => some (r.openGroup r.flags, rest)

def single? (r : Reading) (text : List Char) : Option (Reading × List Char) := do
  let (a, rest) ← atom? r.flags text
  if a.isSupported r.flags then some (r.add 0, rest) else none

def piece? (r : Reading) : List Char → Option (Reading × List Char)
  | [] => none
  | '(' :: rest => group? r rest
  | ')' :: rest => r.closeGroup?.map (·, rest)
  | '|' :: rest => some (r.branch, rest)
  | '[' :: rest => (class? r.flags rest).map fun (depth, rest) => (r.add depth, rest)
  | '{' :: _ => none
  | '.' :: rest => if r.flags.unicode then some (r.add 0, rest) else none
  | c :: rest =>
    if ['^', '$'].contains c then some (r.add 0, rest)
    else if ['?', '*', '+'].contains c then
      r.repeat?.map (·, if rest.head? == some '?' then rest.drop 1 else rest)
    else single? r (c :: rest)

def reads : Nat → Reading → List Char → Bool
  | 0, _, _ => false
  | fuel + 1, r, text =>
    match r.flags.next text with
    | [] => r.outer.isEmpty && r.level.depth ≤ deepest
    | text =>
      match piece? r text with
      | some (r, rest) => reads fuel r rest
      | none => false

def isPattern (text : List Char) : Bool := reads (text.length + 1) .start text

end GridRobot.Log.Pattern
