import GridRobot.Json.Skip

/-! Readers. A reader takes a value off the front of the tokens; what it leaves is
always shorter. Readers meet problems in the order of the tokens: a value of the
wrong kind is reported when its first token is seen, and the end of a list only
after its items. -/
namespace GridRobot.Json

structure Reader (α : Type) where
  run : List Token → Except Halt (α × List Token)
  shorter : ∀ {ts a rest}, run ts = .ok (a, rest) → rest.length < ts.length

namespace Reader

/-- Why reading halts at a token where something else is expected. A list or an object is
not entered to find that out; anything else is read to its end. -/
def unexpected (expected : String) (ts : List Token) : Token → Halt
  | .openList => .before (.openList :: ts) (.mismatch (.invalidType .list expected))
  | .openObject => .before (.openObject :: ts) (.mismatch (.invalidType .object expected))
  | .word (.ok .null) => .behind ts (.mismatch (.invalidType .null expected))
  | .word (.ok .true) => .behind ts (.mismatch (.invalidType (.bool true) expected))
  | .word (.ok .false) => .behind ts (.mismatch (.invalidType (.bool false) expected))
  | .number (.ok n) _ => .behind ts (.mismatch (.invalidType n.found expected))
  | .text (.ok cs) _ => .behind ts (.mismatch (.invalidType (.text (String.ofList cs)) expected))
  | .word (.error flaw) | .number (.error flaw) _ | .text (.error flaw) _ => .inside flaw
  | t => .malformed (t :: ts) .expectedValue

def one {α : Type} (accept : List Token → Token → Except Halt α) : Reader α where
  run
    | [] => .error (.ended .value)
    | t :: ts => (accept ts t).map (·, ts)
  shorter {ts a rest} h := by
    cases ts with
    | nil => cases h
    | cons t ts =>
      cases ht : accept ts t with
      | error p => simp [ht, Except.map] at h
      | ok x => simp only [ht, Except.map] at h; cases h; simp

def word (expected : String) : Reader UInt64 := one fun
  | _, .number (.ok (.natural n)) _ => .ok n
  | ts, .number (.ok (.negative n)) _ =>
    .error (.behind ts (.mismatch (.invalidValue (Number.negative n).found expected)))
  | ts, t => .error (unexpected expected ts t)

def bool : Reader Bool := one fun
  | _, .word (.ok .true) => .ok true
  | _, .word (.ok .false) => .ok false
  | ts, t => .error (unexpected "a boolean" ts t)

def text (expected : String) : Reader String := one fun
  | _, .text (.ok cs) _ => .ok (String.ofList cs)
  | ts, t => .error (unexpected expected ts t)

def null (expected : String) : Reader Unit := one fun
  | _, .word (.ok .null) => .ok ()
  | ts, t => .error (unexpected expected ts t)

def skipped : Reader Unit where
  run ts := (skip ts).map ((), ·)
  shorter {ts a rest} h := by
    cases hs : skip ts with
    | error p => simp [hs, Except.map] at h
    | ok r => simp only [hs, Except.map] at h; cases h; exact skipFromShorter hs

def map {α β : Type} (f : α → β) (r : Reader α) : Reader β where
  run ts := (r.run ts).map fun (a, rest) => (f a, rest)
  shorter {ts a rest} h := by
    cases hr : r.run ts with
    | error p => simp [hr, Except.map] at h
    | ok x => simp only [hr, Except.map] at h; cases h; exact r.shorter hr

end Reader

def nextItem (first : Bool) (ts : List Token) : Except Halt (Option (List Token)) :=
  match ts with
  | [] => .error (.ended .list)
  | .closeList :: _ => .ok none
  | .comma :: rest =>
    if first then .ok (some ts)
    else
      match rest with
      | [] => .error (.ended .value)
      | .closeList :: _ => .error (.malformed rest .trailingComma)
      | _ => .ok (some rest)
  | _ => if first then .ok (some ts) else .error (.malformed ts .expectedListEnd)

theorem nextItemLe {first : Bool} {ts rest : List Token}
    (h : nextItem first ts = .ok (some rest)) : rest.length ≤ ts.length := by
  unfold nextItem at h
  split at h
  · cases h
  · cases h
  · split at h
    · cases h; simp
    · split at h
      · cases h
      · cases h
      · cases h; simp
  · split at h
    · cases h; simp
    · cases h

def endList (ts : List Token) : Except Halt (List Token) :=
  match ts with
  | [] => .error (.ended .list)
  | .closeList :: rest => .ok rest
  | .comma :: .closeList :: rest => .error (.malformed (.closeList :: rest) .trailingComma)
  | .comma :: rest => .error (.malformed rest .trailingCharacters)
  | _ => .error (.malformed ts .trailingCharacters)

theorem endListShorter {ts rest : List Token} (h : endList ts = .ok rest) :
    rest.length < ts.length := by
  unfold endList at h
  split at h <;> cases h
  simp

namespace Reader

def items {α : Type} (r : Reader α) (first : Bool) (ts : List Token) :
    Except Halt (List α × List Token) :=
  match _next : nextItem first ts with
  | .error p => .error p
  | .ok none => .ok ([], ts)
  | .ok (some ts') =>
    match _read : r.run ts' with
    | .error p => .error p
    | .ok (a, rest) => (items r false rest).map fun (as, last) => (a :: as, last)
  termination_by ts.length
  decreasing_by exact Nat.lt_of_lt_of_le (r.shorter _read) (nextItemLe _next)

theorem itemsLe {α : Type} {r : Reader α} {first : Bool} {ts rest : List Token} {as : List α}
    (h : items r first ts = .ok (as, rest)) : rest.length ≤ ts.length := by
  fun_induction items r first ts generalizing as rest with
  | case1 => cases h
  | case2 => cases h; simp
  | case3 => cases h
  | case4 first ts ts' next a after read ih =>
    cases hi : items r false after with
    | error p => simp [hi, Except.map] at h
    | ok x =>
      have := ih hi
      have := r.shorter read
      have := nextItemLe next
      simp only [hi, Except.map] at h
      cases h; omega

def list {α : Type} (r : Reader α) : Reader (List α) where
  run
    | [] => .error (.ended .value)
    | .openList :: ts => do
      let (as, rest) ← items r true ts
      return (as, ← endList rest)
    | t :: ts => .error (unexpected "a sequence" ts t)
  shorter {ts a rest} h := by
    split at h
    · cases h
    · rename_i tail
      cases hi : items r true tail with
      | error p => simp [hi, bind, Except.bind] at h
      | ok x =>
        cases he : endList x.2 with
        | error p => simp [hi, he, bind, Except.bind] at h
        | ok last =>
          have := itemsLe hi
          have := endListShorter he
          simp only [hi, he, bind, Except.bind, pure, Except.pure] at h
          cases h; simp only [List.length_cons]; omega
    · cases h

def arrayOf (n : Nat) : String := "an array of length " ++ toString n

def itemsExactly {α : Type} (r : Reader α) (size : Nat) :
    (n : Nat) → List Token → Except Halt (Vector α n × List Token)
  | 0, ts => .ok (#v[], ts)
  | n + 1, ts => do
    let (before, ts') ← itemsExactly r size n ts
    match ← nextItem (n == 0) ts' with
    | none => .error (.behind (ts'.drop 1) (.mismatch (.invalidLength n (arrayOf size))))
    | some ts'' =>
      let (a, rest) ← r.run ts''
      return (before.push a, rest)

theorem itemsExactlyLe {α : Type} {r : Reader α} {size n : Nat} {ts rest : List Token}
    {as : Vector α n} (h : itemsExactly r size n ts = .ok (as, rest)) :
    rest.length ≤ ts.length := by
  induction n generalizing rest with
  | zero => cases h; simp
  | succ n ih =>
    simp only [itemsExactly, bind, Except.bind] at h
    split at h
    · cases h
    · rename_i before found
      have := ih found
      split at h
      · cases h
      · rename_i next step
        split at h
        · cases h
        · rename_i ts'
          have := nextItemLe step
          split at h
          · cases h
          · rename_i x read
            have := r.shorter read
            simp only [pure, Except.pure] at h
            cases h; omega

def array {α : Type} (r : Reader α) (n : Nat) : Reader (Vector α n) where
  run
    | [] => .error (.ended .value)
    | .openList :: ts => do
      let (as, rest) ← itemsExactly r n n ts
      return (as, ← endList rest)
    | t :: ts => .error (unexpected (arrayOf n) ts t)
  shorter {ts a rest} h := by
    split at h
    · cases h
    · rename_i tail
      cases hi : itemsExactly r n n tail with
      | error p => simp [hi, bind, Except.bind] at h
      | ok x =>
        cases he : endList x.2 with
        | error p => simp [hi, he, bind, Except.bind] at h
        | ok last =>
          have := itemsExactlyLe hi
          have := endListShorter he
          simp only [hi, he, bind, Except.bind, pure, Except.pure] at h
          cases h; simp only [List.length_cons]; omega
    · cases h

end Reader

def Reader.document {α : Type} (r : Reader α) (text : String) : Except Located α :=
  match r.run (tokens text.toList) with
  | .error h => .error (h.located text.toList)
  | .ok (a, []) => .ok a
  | .ok (_, ts) => .error ((Halt.malformed ts .trailingCharacters).located text.toList)

end GridRobot.Json
