import GridRobot.Json.Problem
import GridRobot.Text.Hex

/-! JSON strings: the text between two double quotes. Writing escapes quotes,
backslashes and control characters. Reading undoes every escape and needs surrogates
in pairs; passing over a string checks the escapes but not what they stand for. -/
namespace GridRobot.Json

def escapeControl (c : Char) : List Char :=
  let digits := Nat.toDigits 16 c.toNat
  '\\' :: 'u' :: List.replicate (4 - digits.length) '0' ++ digits

def escape (c : Char) : List Char :=
  match c with
  | '"' => ['\\', '"']
  | '\\' => ['\\', '\\']
  | '\x08' => ['\\', 'b']
  | '\x0c' => ['\\', 'f']
  | '\n' => ['\\', 'n']
  | '\r' => ['\\', 'r']
  | '\t' => ['\\', 't']
  | c => if c.toNat < 0x20 then escapeControl c else [c]

def writeText (cs : List Char) : List Char := '"' :: cs.flatMap escape ++ ['"']

def fourBytesLeft (cs : List Char) : Bool := 4 ≤ (cs.take 4).foldl (fun n c => n + c.utf8Size) 0

def hexUnit (cs : List Char) : Except Flaw (Nat × List Char) :=
  if fourBytesLeft cs then
    match cs with
    | a :: b :: c :: d :: rest =>
      match Text.hexDigit? a, Text.hexDigit? b, Text.hexDigit? c, Text.hexDigit? d with
      | some a, some b, some c, some d => .ok (((a * 16 + b) * 16 + c) * 16 + d, rest)
      | _, _, _, _ => .error (.malformed .invalidEscape 4 cs)
    | _ => .error (.malformed .invalidEscape 4 cs)
  else .error (.ended .text)

def isLeading (unit : Nat) : Bool := 0xD800 ≤ unit && unit ≤ 0xDBFF
def isTrailing (unit : Nat) : Bool := 0xDC00 ≤ unit && unit ≤ 0xDFFF

def joinSurrogates (leading trailing : Nat) : Char :=
  Char.ofNat ((leading - 0xD800) * 0x400 + (trailing - 0xDC00) + 0x10000)

def readTrailing (leading : Nat) (cs : List Char) : Except Flaw (Char × List Char) :=
  match cs with
  | [] => .error (.ended .text)
  | '\\' :: [] => .error (.ended .text)
  | '\\' :: 'u' :: rest =>
    match hexUnit rest with
    | .error p => .error p
    | .ok (unit, after) =>
      if isTrailing unit then .ok (joinSurrogates leading unit, after)
      else .error (.malformed .loneSurrogate 0 after)
  | '\\' :: rest => .error (.malformed .unfinishedSurrogate 1 rest)
  | cs => .error (.malformed .unfinishedSurrogate 1 cs)

def readUnicode (cs : List Char) : Except Flaw (Char × List Char) :=
  match hexUnit cs with
  | .error p => .error p
  | .ok (unit, rest) =>
    if isTrailing unit then .error (.malformed .loneSurrogate 0 rest)
    else if isLeading unit then readTrailing unit rest
    else .ok (Char.ofNat unit, rest)

def shortEscape? (c : Char) : Option Char :=
  match c with
  | '"' => some '"'
  | '\\' => some '\\'
  | '/' => some '/'
  | 'b' => some '\x08'
  | 'f' => some '\x0c'
  | 'n' => some '\n'
  | 'r' => some '\r'
  | 't' => some '\t'
  | _ => none

def readEscape (cs : List Char) : Except Flaw (Char × List Char) :=
  match cs with
  | [] => .error (.ended .text)
  | c :: rest =>
    if c = 'u' then readUnicode rest
    else
      match shortEscape? c with
      | some e => .ok (e, rest)
      | none => .error (.malformed .invalidEscape 1 cs)

def skipEscape (cs : List Char) : Except Flaw (List Char) :=
  match cs with
  | [] => .error (.ended .text)
  | c :: rest =>
    if c = 'u' then (hexUnit rest).map (·.2)
    else if (shortEscape? c).isSome then .ok rest
    else .error (.malformed .invalidEscape 1 cs)

theorem hexUnitShorter {cs rest : List Char} {n : Nat} (h : hexUnit cs = .ok (n, rest)) :
    rest.length < cs.length := by
  unfold hexUnit at h
  split at h
  · split at h
    · split at h
      · cases h; simp only [List.length_cons]; omega
      · cases h
    · cases h
  · cases h

theorem readTrailingShorter {cs rest : List Char} {n : Nat} {c : Char}
    (h : readTrailing n cs = .ok (c, rest)) : rest.length < cs.length := by
  unfold readTrailing at h
  split at h
  · cases h
  · cases h
  · rename_i tail
    split at h
    · cases h
    · rename_i unit after hu
      have := hexUnitShorter hu
      cases ht : isTrailing unit <;> simp [ht] at h
      rw [← h.2]; simp only [List.length_cons]; omega
  · cases h
  · cases h

theorem readUnicodeShorter {cs rest : List Char} {c : Char}
    (h : readUnicode cs = .ok (c, rest)) : rest.length < cs.length := by
  unfold readUnicode at h
  split at h
  · cases h
  · rename_i unit after hu
    have := hexUnitShorter hu
    cases ht : isTrailing unit <;> cases hl : isLeading unit <;> simp [ht, hl] at h
    · rw [← h.2]; assumption
    · have := readTrailingShorter h; omega

theorem readEscapeShorter {cs rest : List Char} {c : Char}
    (h : readEscape cs = .ok (c, rest)) : rest.length < cs.length := by
  unfold readEscape at h
  split at h
  · cases h
  · split at h
    · have := readUnicodeShorter h; simp only [List.length_cons]; omega
    · split at h
      · cases h; simp
      · cases h

theorem skipEscapeShorter {cs rest : List Char}
    (h : skipEscape cs = .ok rest) : rest.length < cs.length := by
  unfold skipEscape at h
  split at h
  · cases h
  · rename_i c tail
    split at h
    · cases hu : hexUnit tail with
      | error p => simp [hu, Except.map] at h
      | ok r =>
        have := hexUnitShorter hu
        simp only [hu, Except.map] at h
        cases h; simp only [List.length_cons]; omega
    · split at h
      · cases h; simp
      · cases h

def readText (cs : List Char) : Except Flaw (List Char × List Char) :=
  match cs with
  | [] => .error (.ended .text)
  | c :: rest =>
    if c = '"' then .ok ([], rest)
    else if c = '\\' then
      match _escaped : readEscape rest with
      | .error p => .error p
      | .ok (e, after) => (readText after).map fun (es, last) => (e :: es, last)
    else if c.toNat < 0x20 then .error (.malformed .controlCharacter 1 cs)
    else (readText rest).map fun (es, last) => (c :: es, last)
  termination_by cs.length
  decreasing_by
    · have := readEscapeShorter _escaped; simp only [List.length_cons]; omega
    · simp

def skipText (cs : List Char) : Except Flaw (List Char) :=
  match cs with
  | [] => .error (.ended .text)
  | c :: rest =>
    if c = '"' then .ok rest
    else if c = '\\' then
      match _escaped : skipEscape rest with
      | .error p => .error p
      | .ok after => skipText after
    else if c.toNat < 0x20 then .error (.malformed .controlCharacter 0 cs)
    else skipText rest
  termination_by cs.length
  decreasing_by
    · have := skipEscapeShorter _escaped; simp only [List.length_cons]; omega
    · simp

theorem skipTextShorter {cs rest : List Char} (h : skipText cs = .ok rest) :
    rest.length < cs.length := by
  fun_induction skipText cs with
  | case1 => cases h
  | case2 => cases h; simp
  | case3 => cases h
  | case4 tail after escaped _ ih =>
    have := skipEscapeShorter escaped
    have := ih h
    simp only [List.length_cons]; omega
  | case5 => cases h
  | case6 _ _ _ _ _ ih => have := ih h; simp only [List.length_cons]; omega

end GridRobot.Json
