import GridRobot.Json.Number
import GridRobot.Json.Text

/-! JSON tokens. A text is cut into tokens from left to right, up to the first place
where that is not possible. Numbers and strings are kept in two readings, as a value
and as something to pass over, since only a value has a range and needs its
surrogates in pairs. -/
namespace GridRobot.Json

inductive Word where
  | null | true | false
  deriving DecidableEq, Repr

inductive Token where
  | openList | closeList | openObject | closeObject | comma | colon
  | word (value : Except Flaw Word)
  | number (value : Except Flaw Number) (skipped : Except Flaw Unit)
  | text (value : Except Flaw (List Char)) (skipped : Except Flaw Unit)
  /-- A character that begins no token; nothing is cut off after it. -/
  | stray

def isSpace (c : Char) : Bool := c == ' ' || c == '\n' || c == '\t' || c == '\r'

def expectLetters : List Char → List Char → Except Flaw (List Char)
  | [], cs => .ok cs
  | _ :: _, [] => .error (.ended .value)
  | e :: es, c :: cs =>
    if c = e then expectLetters es cs else .error (.malformed .expectedWord 1 (c :: cs))

theorem expectLettersLe {es cs rest : List Char} (h : expectLetters es cs = .ok rest) :
    rest.length ≤ cs.length := by
  induction es generalizing cs with
  | nil => cases h; simp
  | cons e es ih =>
    cases cs with
    | nil => cases h
    | cons c cs =>
      simp only [expectLetters] at h
      split at h
      · have := ih h; simp only [List.length_cons]; omega
      · cases h

def wordFrom? (c : Char) : Option (Word × List Char) :=
  match c with
  | 'n' => some (.null, ['u', 'l', 'l'])
  | 't' => some (.true, ['r', 'u', 'e'])
  | 'f' => some (.false, ['a', 'l', 's', 'e'])
  | _ => none

def mark? (c : Char) : Option Token :=
  match c with
  | '[' => some .openList
  | ']' => some .closeList
  | '{' => some .openObject
  | '}' => some .closeObject
  | ',' => some .comma
  | ':' => some .colon
  | _ => none

def beginsNumber (c : Char) : Bool := c == '-' || c.isDigit

def token (c : Char) (rest : List Char) : Token × Option (List Char) :=
  match mark? c with
  | some t => (t, some rest)
  | none =>
    match wordFrom? c with
    | some (w, letters) =>
      match expectLetters letters rest with
      | .ok after => (.word (.ok w), some after)
      | .error p => (.word (.error p), none)
    | none =>
      if c = '"' then
        match skipText rest with
        | .ok after => (.text ((readText rest).map (·.1)) (.ok ()), some after)
        | .error p => (.text ((readText rest).map (·.1)) (.error p), none)
      else if beginsNumber c then
        match scanNumeral (c :: rest) with
        | .ok (n, after) => (.number (n.value after) (.ok ()), some after)
        | .error left => (.number (.error left.flaw) (.error left.skippedFlaw), none)
      else (.stray, none)

theorem tokenShorter {c : Char} {rest after : List Char} {t : Token}
    (h : token c rest = (t, some after)) : after.length < (c :: rest).length := by
  unfold token at h
  split at h
  · cases h; simp
  · split at h
    · split at h
      · rename_i letters after' found
        have := expectLettersLe found
        cases h; simp only [List.length_cons]; omega
      · cases h
    · split at h
      · split at h
        · rename_i after' found
          have := skipTextShorter found
          cases h; simp only [List.length_cons]; omega
        · cases h
      · split at h
        · split at h
          · rename_i found
            have := scanNumeralShorter found
            cases h; assumption
          · cases h
        · cases h

structure Lexeme where
  token : Token
  text : List Char
  after : List Char

def lexemes (cs : List Char) : List Lexeme :=
  match cs with
  | [] => []
  | c :: rest =>
    if isSpace c then lexemes rest
    else
      match _cut : token c rest with
      | (t, none) => [⟨t, cs, []⟩]
      | (t, some after) => ⟨t, cs, after⟩ :: lexemes after
  termination_by cs.length
  decreasing_by
    · simp
    · exact tokenShorter _cut

def tokens (cs : List Char) : List Token := (lexemes cs).map Lexeme.token

/-- Why reading halts, and where: inside a token, or at tokens that have not been taken. -/
inductive Halt where
  | inside (flaw : Flaw)
  | before (left : List Token) (problem : Problem)
  | into (left : List Token) (problem : Problem)
  | behind (left : List Token) (problem : Problem)

namespace Halt

def ended (inside : Unfinished) : Halt := .before [] (.ended inside)

def malformed (left : List Token) (fault : Fault) : Halt := .into left (.malformed fault)

def problem : Halt → Problem
  | inside flaw => flaw.problem
  | before _ p | into _ p | behind _ p => p

def spot (all : List Lexeme) : Halt → Text.Spot
  | inside flaw => flaw.spot
  | before left _ => .start ((all[all.length - left.length]?.map Lexeme.text).getD [])
  | into left _ => .into 1 ((all[all.length - left.length]?.map Lexeme.text).getD [])
  | behind left _ => .start ((all[all.length - left.length - 1]?.map Lexeme.after).getD [])

def located (h : Halt) (text : List Char) : Located :=
  ⟨h.problem, (h.spot (lexemes text)).place text⟩

end Halt
end GridRobot.Json
