import GridRobot.Json.Token

/-! Passing over a value. A member that nobody asks for still has to be well formed:
`skip` follows its tokens with a stack of the lists and objects that are open, to any
depth, and gives back what comes after the value. -/
namespace GridRobot.Json

inductive Enclosure where
  | list | object
  deriving DecidableEq, Repr

inductive Expecting where
  | value
  | firstItem
  | firstKey
  | key
  | colon
  | separator
  | nothing
  deriving DecidableEq, Repr

structure Passing where
  expecting : Expecting
  enclosures : List Enclosure
  deriving DecidableEq, Repr

namespace Passing

def start : Passing := ⟨.value, []⟩

def afterValue (enclosures : List Enclosure) : Passing :=
  if enclosures.isEmpty then ⟨.nothing, []⟩ else ⟨.separator, enclosures⟩

def close (enclosures : List Enclosure) : Passing := afterValue (enclosures.drop 1)

def ended (p : Passing) : Halt :=
  match p.expecting, p.enclosures with
  | .value, _ => .ended .value
  | _, .list :: _ => .ended .list
  | _, _ => .ended .object

def valueToken (enclosures : List Enclosure) (t : Token) (ts : List Token) : Except Halt Passing :=
  match t with
  | .openList => .ok ⟨.firstItem, .list :: enclosures⟩
  | .openObject => .ok ⟨.firstKey, .object :: enclosures⟩
  | .word (.ok _) | .number _ (.ok _) | .text _ (.ok _) => .ok (afterValue enclosures)
  | .word (.error flaw) | .number _ (.error flaw) | .text _ (.error flaw) => .error (.inside flaw)
  | _ => .error (.malformed (t :: ts) .expectedValue)

def keyToken (enclosures : List Enclosure) (t : Token) (ts : List Token) : Except Halt Passing :=
  match t with
  | .text _ (.ok _) => .ok ⟨.colon, enclosures⟩
  | .text _ (.error flaw) => .error (.inside flaw)
  | _ => .error (.malformed (t :: ts) .keyNotText)

def separatorToken (enclosures : List Enclosure) (t : Token) (ts : List Token) :
    Except Halt Passing :=
  match t with
  | .comma =>
    .ok ⟨if enclosures.head? = some .object then .key else .value, enclosures⟩
  | .closeList =>
    if enclosures.head? = some .list then .ok (close enclosures)
    else .error (.malformed (t :: ts) .expectedObjectEnd)
  | .closeObject =>
    if enclosures.head? = some .object then .ok (close enclosures)
    else .error (.malformed (t :: ts) .expectedListEnd)
  | _ =>
    .error (.malformed (t :: ts)
      (if enclosures.head? = some .list then .expectedListEnd else .expectedObjectEnd))

def feed (p : Passing) (t : Token) (ts : List Token) : Except Halt Passing :=
  match p.expecting with
  | .value => valueToken p.enclosures t ts
  | .firstItem =>
    match t with
    | .closeList => .ok (close p.enclosures)
    | t => valueToken p.enclosures t ts
  | .firstKey =>
    match t with
    | .closeObject => .ok (close p.enclosures)
    | t => keyToken p.enclosures t ts
  | .key => keyToken p.enclosures t ts
  | .colon =>
    match t with
    | .colon => .ok ⟨.value, p.enclosures⟩
    | _ => .error (.malformed (t :: ts) .expectedColon)
  | .separator => separatorToken p.enclosures t ts
  | .nothing => .ok p

end Passing

def skipFrom (p : Passing) : List Token → Except Halt (List Token)
  | [] => .error p.ended
  | t :: ts =>
    match p.feed t ts with
    | .error h => .error h
    | .ok p' => if p'.expecting = .nothing then .ok ts else skipFrom p' ts

def skip (ts : List Token) : Except Halt (List Token) := skipFrom .start ts

theorem skipFromShorter {p : Passing} {ts rest : List Token} (h : skipFrom p ts = .ok rest) :
    rest.length < ts.length := by
  induction ts generalizing p with
  | nil => cases h
  | cons t ts ih =>
    simp only [skipFrom] at h
    split at h
    · cases h
    · split at h
      · cases h; simp
      · have := ih h; simp only [List.length_cons]; omega

end GridRobot.Json
