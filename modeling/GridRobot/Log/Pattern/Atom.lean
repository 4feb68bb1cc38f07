import GridRobot.Text.Blank
import GridRobot.Text.Hex

/-! Atoms of patterns: single characters, written as they are or as escapes, kinds of
characters, and edges. What may stand in a pattern depends on its flags. There are no
tables of letter case, of kinds of characters or of words beyond ASCII, so that what
needs them is not supported; and what a pattern matches has to be text, not bytes. -/
namespace GridRobot.Log.Pattern

structure Flags where
  spaced : Bool
  caseless : Bool
  unicode : Bool
  deriving DecidableEq, Repr

namespace Flags

def standard : Flags := ⟨false, false, true⟩

def passed : Bool → List Char → List Char
  | _, [] => []
  | false, c :: cs =>
    if Text.isBlank c then passed false cs else if c == '#' then passed true cs else c :: cs
  | true, c :: cs => passed (c != '\n') cs

def next (f : Flags) (text : List Char) : List Char := if f.spaced then passed false text else text

/-- The next character, looked at from afar: the text of a comment is not told from the
pattern. -/
def glimpse? (f : Flags) (text : List Char) : Option Char :=
  if f.spaced then
    match text.dropWhile Text.isBlank with
    | '#' :: rest => (rest.dropWhile Text.isBlank).head?
    | rest => rest.head?
  else text.head?

def takesCharacters (f : Flags) : Bool := !(f.unicode && f.caseless)

end Flags

inductive Atom where
  | char (code : Nat) (asByte : Bool)
  | kind (negated : Bool)
  | edge
  | wordEdge
  deriving DecidableEq, Repr

namespace Atom

def isSupported (f : Flags) : Atom → Bool
  | char code asByte => if f.unicode then !f.caseless else !(asByte && 0x80 ≤ code)
  | kind negated => !f.unicode && !negated
  | edge => true
  | wordEdge => !f.unicode

def isMember (f : Flags) : Atom → Bool
  | char code _ => if f.unicode then !f.caseless else code < 0x80
  | kind negated => !f.unicode && !negated
  | edge | wordEdge => false

end Atom

def hexChar? (f : Flags) : Nat → Nat → List Char → Option (Nat × List Char)
  | 0, code, text => if code.isValidChar then some (code, text) else none
  | digits + 1, code, text =>
    match f.next text with
    | [] => none
    | c :: rest => (Text.hexDigit? c).bind fun d => hexChar? f digits (16 * code + d) rest

def controls : List (Char × Nat) :=
  [('a', 0x07), ('f', 0x0C), ('t', 0x09), ('n', 0x0A), ('r', 0x0D), ('v', 0x0B)]

/-- An escape, read after its backslash. The signs of ASCII stand for themselves, but for
the angle brackets, which are the edges of words. -/
def escape? (f : Flags) : List Char → Option (Atom × List Char)
  | [] => none
  | 'x' :: rest => (hexChar? f 2 0 rest).map fun (code, rest) => (.char code true, rest)
  | 'u' :: rest => (hexChar? f 4 0 rest).map fun (code, rest) => (.char code false, rest)
  | 'U' :: rest => (hexChar? f 8 0 rest).map fun (code, rest) => (.char code false, rest)
  | c :: rest =>
    if ['d', 's', 'w'].contains c then some (.kind false, rest)
    else if ['D', 'S', 'W'].contains c then some (.kind true, rest)
    else if ['A', 'z'].contains c then some (.edge, rest)
    else if ['b', 'B', '<', '>'].contains c then some (.wordEdge, rest)
    else
      match controls.lookup c with
      | some code => some (.char code false, rest)
      | none =>
        if c.toNat < 0x80 && !c.isAlphanum then some (.char c.toNat false, rest) else none

end GridRobot.Log.Pattern
