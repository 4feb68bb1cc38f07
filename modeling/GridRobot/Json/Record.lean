import GridRobot.Json.Reader

/-! Records. A record is written as an object with its fields as members, in any order
and among members of other names, or as a list of its fields in the order they are
declared. Fields gather in a draft; a member that comes twice is refused when its key
comes again. -/
namespace GridRobot.Json

structure RecordField (σ : Type) where
  name : String
  isSet : σ → Bool
  read : σ → Reader σ

def keyText (key : Except Flaw (List Char)) (after : List Token) :
    Except Halt (Option (List Char × List Token)) :=
  match key with
  | .error flaw => .error (.inside flaw)
  | .ok k => .ok (some (k, after))

def nextKey (first : Bool) (ts : List Token) :
    Except Halt (Option (List Char × List Token)) :=
  match ts with
  | [] => .error (.ended .object)
  | .closeObject :: _ => .ok none
  | .comma :: rest =>
    if first then .error (.malformed ts .keyNotText)
    else
      match rest with
      | [] => .error (.ended .value)
      | .closeObject :: _ => .error (.malformed rest .trailingComma)
      | .text key _ :: after => keyText key after
      | _ => .error (.malformed rest .keyNotText)
  | .text key _ :: after =>
    if first then keyText key after else .error (.malformed ts .expectedObjectEnd)
  | _ => .error (.malformed ts (if first then .keyNotText else .expectedObjectEnd))

theorem nextKeyShorter {first : Bool} {ts rest : List Token} {k : List Char}
    (h : nextKey first ts = .ok (some (k, rest))) : rest.length < ts.length := by
  have fromKey {key : Except Flaw (List Char)} {after : List Token}
      (h : keyText key after = .ok (some (k, rest))) : after = rest := by
    unfold keyText at h; split at h <;> cases h; rfl
  unfold nextKey at h
  split at h
  · cases h
  · cases h
  · split at h
    · cases h
    · split at h
      · cases h
      · cases h
      · have := fromKey h; subst this; simp only [List.length_cons]; omega
      · cases h
  · split at h
    · have := fromKey h; subst this; simp
    · cases h
  · cases h

def colon (ts : List Token) : Except Halt (List Token) :=
  match ts with
  | [] => .error (.ended .object)
  | .colon :: rest => .ok rest
  | _ => .error (.malformed ts .expectedColon)

theorem colonShorter {ts rest : List Token} (h : colon ts = .ok rest) :
    rest.length < ts.length := by
  unfold colon at h
  split at h <;> cases h
  simp

namespace Reader

variable {σ : Type}

def memberValue (r : Reader σ) : Reader σ where
  run ts := do r.run (← colon ts)
  shorter {ts a rest} h := by
    cases hc : colon ts with
    | error p => simp [hc, bind, Except.bind] at h
    | ok after =>
      have := colonShorter hc
      simp only [hc, bind, Except.bind] at h
      have := r.shorter h
      omega

/-- A member that comes twice is reported before what follows its key, or after it if
that is the end of the object. -/
def repeated (name : String) (after : List Token) : Halt :=
  match after with
  | .closeObject :: rest => .behind rest (.mismatch (.duplicateField name))
  | _ => .before after (.mismatch (.duplicateField name))

def member (fields : List (RecordField σ)) (draft : σ) (key : List Char) (after : List Token) :
    Except Halt (Reader σ) :=
  match fields.find? (·.name.toList == key) with
  | none => .ok (memberValue (skipped.map fun _ => draft))
  | some f =>
    if f.isSet draft then .error (repeated f.name after)
    else .ok (memberValue (f.read draft))

def members (fields : List (RecordField σ)) (first : Bool) (draft : σ) (ts : List Token) :
    Except Halt (σ × List Token) :=
  match _next : nextKey first ts with
  | .error p => .error p
  | .ok none => .ok (draft, ts)
  | .ok (some (key, after)) =>
    match member fields draft key after with
    | .error p => .error p
    | .ok r =>
      match _read : r.run after with
      | .error p => .error p
      | .ok (draft', rest) => members fields false draft' rest
  termination_by ts.length
  decreasing_by exact Nat.lt_trans (r.shorter _read) (nextKeyShorter _next)

theorem membersLe {fields : List (RecordField σ)} {first : Bool} {draft a : σ}
    {ts rest : List Token}
    (h : members fields first draft ts = .ok (a, rest)) : rest.length ≤ ts.length := by
  fun_induction members fields first draft ts with
  | case1 => cases h
  | case2 => cases h; simp
  | case3 => cases h
  | case4 => cases h
  | case5 first draft ts key after next r _ draft' rest' read ih =>
    have := ih h
    have := r.shorter read
    have := nextKeyShorter next
    omega

/-- Fields in the order they are declared, from a list that has been opened. A list
that is too short is refused with the length it should have, if one is named. -/
def listed (wanted : Option String) :
    Nat → List (RecordField σ) → σ → List Token → Except Halt (σ × List Token)
  | _, [], draft, ts => .ok (draft, ts)
  | n, f :: fs, draft, ts => do
    match ← nextItem (n == 0) ts with
    | none =>
      match wanted with
      | some expected => .error (.behind (ts.drop 1) (.mismatch (.invalidLength n expected)))
      | none => .ok (draft, ts)
    | some ts' =>
      let (draft', rest) ← (f.read draft).run ts'
      listed wanted (n + 1) fs draft' rest

theorem listedLe {wanted : Option String} {n : Nat} {fields : List (RecordField σ)} {draft a : σ}
    {ts rest : List Token} (h : listed wanted n fields draft ts = .ok (a, rest)) :
    rest.length ≤ ts.length := by
  induction fields generalizing n draft ts with
  | nil => cases h; simp
  | cons f fs ih =>
    simp only [listed, bind, Except.bind] at h
    split at h
    · cases h
    · rename_i next step
      split at h
      · split at h
        · cases h
        · cases h; simp
      · have := nextItemLe step
        split at h
        · cases h
        · rename_i x read
          have := (f.read draft).shorter read
          have := ih h
          omega

def closeObject (ts : List Token) : Except Halt (List Token) :=
  match ts with
  | .closeObject :: rest => .ok rest
  | [] => .error (.ended .object)
  | _ => .error (.malformed ts .trailingCharacters)

theorem closeObjectShorter {ts rest : List Token} (h : closeObject ts = .ok rest) :
    rest.length < ts.length := by
  unfold closeObject at h
  split at h <;> cases h
  simp

def record (name : String) (fields : List (RecordField σ)) (wanted : Option String) (draft : σ) :
    Reader σ where
  run
    | [] => .error (.ended .value)
    | .openList :: ts => do
      let (last, rest) ← listed wanted 0 fields draft ts
      return (last, ← endList rest)
    | .openObject :: ts => do
      let (last, rest) ← members fields true draft ts
      return (last, ← closeObject rest)
    | t :: ts => .error (unexpected name ts t)
  shorter {ts a rest} h := by
    split at h
    · cases h
    · rename_i tail
      cases hi : listed wanted 0 fields draft tail with
      | error p => simp [hi, bind, Except.bind] at h
      | ok x =>
        cases he : endList x.2 with
        | error p => simp [hi, he, bind, Except.bind] at h
        | ok last =>
          have := listedLe hi
          have := endListShorter he
          simp only [hi, he, bind, Except.bind, pure, Except.pure] at h
          cases h; simp only [List.length_cons]; omega
    · rename_i tail
      cases hi : members fields true draft tail with
      | error p => simp [hi, bind, Except.bind] at h
      | ok x =>
        cases he : closeObject x.2 with
        | error p => simp [hi, he, bind, Except.bind] at h
        | ok last =>
          have := membersLe hi
          have := closeObjectShorter he
          simp only [hi, he, bind, Except.bind, pure, Except.pure] at h
          cases h; simp only [List.length_cons]; omega
    · cases h

def check {α : Type} (r : Reader σ) (finish : σ → Except Problem α) : Reader α where
  run ts := do
    let (draft, rest) ← r.run ts
    match finish draft with
    | .error p => .error (.behind rest p)
    | .ok a => .ok (a, rest)
  shorter {ts a rest} h := by
    cases hr : r.run ts with
    | error p => simp [hr, bind, Except.bind] at h
    | ok x =>
      have := r.shorter hr
      simp only [hr, bind, Except.bind] at h
      cases hf : finish x.1 with
      | error p => simp [hf] at h
      | ok y => simp only [hf] at h; cases h; assumption

end Reader

def required {α : Type} (name : String) : Option α → Except Problem α
  | some a => .ok a
  | none => .error (.mismatch (.missingField name))

end GridRobot.Json
