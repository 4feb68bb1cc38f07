import GridRobot.Text.Joint

/-! Clusters: the runs of characters that a reader takes for one character, such as a
letter and its accents, the two letters of a flag or a family of joined pictures. A
text is the concatenation of its clusters, and none of them is empty. -/
namespace GridRobot.Text

/-- What the last character of a cluster and those before it in the cluster leave for
the decision about the next character. -/
structure Ending where
  last : Joint
  /-- A picture, then extending marks only, then perhaps a joiner. -/
  pictured : Bool
  /-- A consonant and then marks only. -/
  consonantal : Bool
  /-- Such marks with a linker among them. -/
  linked : Bool
  halfFlag : Bool
  deriving DecidableEq, Repr

namespace Ending

def of (j : Joint) : Ending :=
  ⟨j, j == .pictograph, j == .consonant, false, j == .flagLetter⟩

def isMark : Joint → Bool
  | .extending | .linker | .nonJoiner | .joiner => true
  | _ => false

def joinedBy (e : Ending) (j : Joint) : Ending :=
  ⟨j, j == .pictograph || (e.pictured && isMark j && e.last != .joiner),
    j == .consonant || (e.consonantal && isMark j && j != .nonJoiner),
    e.linked && isMark j && j != .nonJoiner || e.consonantal && j == .linker,
    j == .flagLetter && !e.halfFlag⟩

def breaksAlways : Joint → Bool
  | .carriageReturn | .lineFeed | .control => true
  | _ => false

def takes (e : Ending) (j : Joint) : Bool :=
  if e.last == .carriageReturn && j == .lineFeed then true
  else if breaksAlways e.last || breaksAlways j then false
  else
    match e.last, j with
    | .leading, .leading | .leading, .vowel | .leading, .openSyllable
    | .leading, .closedSyllable => true
    | .openSyllable, .vowel | .openSyllable, .trailing | .vowel, .vowel | .vowel, .trailing => true
    | .closedSyllable, .trailing | .trailing, .trailing => true
    | _, .extending | _, .linker | _, .nonJoiner | _, .joiner | _, .spacing => true
    | .prepended, _ => true
    | _, .consonant => e.linked
    | .joiner, .pictograph => e.pictured
    | .flagLetter, .flagLetter => e.halfFlag
    | _, _ => false

end Ending

def clustersAfter (e : Ending) : List Char → List Char × List (List Char)
  | [] => ([], [])
  | c :: cs =>
    let j := Joint.of c
    if e.takes j then
      let (more, rest) := clustersAfter (e.joinedBy j) cs
      (c :: more, rest)
    else
      let (more, rest) := clustersAfter (.of j) cs
      ([], (c :: more) :: rest)

def clusters : List Char → List (List Char)
  | [] => []
  | c :: cs =>
    let (more, rest) := clustersAfter (.of (Joint.of c)) cs
    (c :: more) :: rest

theorem clustersAfterFlatten (e : Ending) (cs : List Char) :
    (clustersAfter e cs).1 ++ (clustersAfter e cs).2.flatten = cs := by
  induction cs generalizing e with
  | nil => rfl
  | cons c cs ih =>
    simp only [clustersAfter]
    split
    · exact congrArg (c :: ·) (ih _)
    · exact congrArg (c :: ·) (ih _)

theorem clustersFlatten (cs : List Char) : (clusters cs).flatten = cs := by
  cases cs with
  | nil => rfl
  | cons c cs => exact congrArg (c :: ·) (clustersAfterFlatten _ cs)

end GridRobot.Text
