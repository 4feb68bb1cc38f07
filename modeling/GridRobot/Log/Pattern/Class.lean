import GridRobot.Log.Pattern.Atom

/-! Classes of characters in patterns: members and ranges in brackets, classes inside
classes, and operators between them. In a pattern about bytes a class may not reach
beyond ASCII, so that none is negated there. Of a class it is only kept how deeply it is
nested. -/
namespace GridRobot.Log.Pattern

structure Bracket where
  leading : Bool
  operand : Option Nat
  members : List Nat
  deriving DecidableEq, Repr

namespace Bracket

def add (b : Bracket) (depth : Nat) : Bracket :=
  { b with leading := false, members := depth :: b.members }

def union (b : Bracket) : Nat :=
  match b.members with
  | [] => 0
  | [depth] => depth
  | depths => 1 + depths.foldl max 0

def depth (b : Bracket) : Nat :=
  match b.operand with
  | none => b.union
  | some before => 1 + max before b.union

def operate (b : Bracket) : Bracket := ⟨false, some b.depth, []⟩

def opened? (f : Flags) (text : List Char) : Option (Bracket × List Char) :=
  let bracket : Bracket := ⟨true, none, []⟩
  match f.next text with
  | '^' :: rest => if f.unicode then some (bracket, rest) else none
  | rest => some (bracket, rest)

end Bracket

def atom? (f : Flags) : List Char → Option (Atom × List Char)
  | '\\' :: rest => escape? f rest
  | c :: rest => some (.char c.toNat false, rest)
  | [] => none

/-- What comes after a member or a range. A hyphen makes no range if the class ends after
it or another hyphen follows. -/
def range? (f : Flags) (text : List Char) : Option (List Char) := do
  let (low, rest) ← atom? f text
  if !low.isMember f then none
  match f.next rest with
  | '-' :: more =>
    if [some ']', some '-'].contains (f.glimpse? more) then some ('-' :: more)
    else
      let (high, rest) ← atom? f (f.next more)
      match low, high with
      | .char l _, .char h _ => if high.isMember f && l ≤ h then some rest else none
      | _, _ => none
  | rest => some rest

def classNames : List String :=
  ["alnum", "alpha", "ascii", "blank", "cntrl", "digit", "graph", "lower", "print", "punct",
    "space", "upper", "word", "xdigit"]

def named? : List Char → Option (Bool × List Char)
  | ':' :: rest =>
    let negated := rest.head? == some '^'
    let rest := if negated then rest.drop 1 else rest
    let name := rest.takeWhile (· != ':')
    if classNames.contains (String.ofList name) && (rest.drop name.length).take 2 == [':', ']'] then
      some (negated, rest.drop (name.length + 2))
    else none
  | _ => none

def classes? (f : Flags) : Nat → Bracket → List Bracket → List Char → Option (Nat × List Char)
  | 0, _, _, _ => none
  | fuel + 1, b, outer, text =>
    match f.next text, b.leading, b.members with
    | '-' :: rest, true, _ =>
      if f.takesCharacters then classes? f fuel { b.add 0 with leading := true } outer rest
      else none
    | ']' :: rest, true, [] =>
      if f.takesCharacters then classes? f fuel (b.add 0) outer rest else none
    | ']' :: rest, _, _ =>
      match outer with
      | [] => some (b.depth + 1, rest)
      | around :: outer => classes? f fuel (around.add (b.depth + 1)) outer rest
    | '[' :: rest, _, _ =>
      match named? rest with
      | some (negated, rest) =>
        if f.takesCharacters && (f.unicode || !negated) then classes? f fuel (b.add 0) outer rest
        else none
      | none => do
        let (inner, rest) ← Bracket.opened? f rest
        classes? f fuel inner (b :: outer) rest
    | '&' :: '&' :: rest, _, _ | '-' :: '-' :: rest, _, _ | '~' :: '~' :: rest, _, _ =>
      classes? f fuel b.operate outer rest
    | text, _, _ => do classes? f fuel (b.add 0) outer (← range? f text)

def class? (f : Flags) (text : List Char) : Option (Nat × List Char) := do
  let (b, rest) ← Bracket.opened? f text
  classes? f (rest.length + 1) b [] rest

end GridRobot.Log.Pattern
