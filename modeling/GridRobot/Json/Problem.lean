import GridRobot.Decimal.Shortest
import GridRobot.Text.Place
import GridRobot.Text.Quoted

/-! What can be wrong with a JSON document. A document may end too soon, be malformed,
or be well formed and yet not say what its reader expects. Each problem has a message;
the reader always reports the first one it meets from left to right. -/
namespace GridRobot.Json

inductive Unfinished where
  | list | object | text | value
  deriving DecidableEq, Repr

def Unfinished.message : Unfinished → String
  | list => "EOF while parsing a list"
  | object => "EOF while parsing an object"
  | text => "EOF while parsing a string"
  | value => "EOF while parsing a value"

inductive Fault where
  | expectedColon
  | expectedListEnd
  | expectedObjectEnd
  | expectedWord
  | expectedValue
  | invalidEscape
  | invalidNumber
  | numberOutOfRange
  | controlCharacter
  | keyNotText
  | loneSurrogate
  | unfinishedSurrogate
  | trailingComma
  | trailingCharacters
  deriving DecidableEq, Repr

def Fault.message : Fault → String
  | expectedColon => "expected `:`"
  | expectedListEnd => "expected `,` or `]`"
  | expectedObjectEnd => "expected `,` or `\x7d`"
  | expectedWord => "expected ident"
  | expectedValue => "expected value"
  | invalidEscape => "invalid escape"
  | invalidNumber => "invalid number"
  | numberOutOfRange => "number out of range"
  | controlCharacter => "control character (\\u0000-\\u001F) found while parsing a string"
  | keyNotText => "key must be a string"
  | loneSurrogate => "lone leading surrogate in hex escape"
  | unfinishedSurrogate => "unexpected end of hex escape"
  | trailingComma => "trailing comma"
  | trailingCharacters => "trailing characters"

inductive Found where
  | null
  | bool (b : Bool)
  | integer (n : Int)
  | real (negative : Bool) (magnitude : Decimal.Binary64)
  | text (s : String)
  | list
  | object
  deriving DecidableEq, Repr

def Found.message : Found → String
  | null => "null"
  | bool b => "boolean `" ++ (if b then "true" else "false") ++ "`"
  | integer n => "integer `" ++ toString n ++ "`"
  | real negative x => "floating point `" ++ String.ofList (Decimal.writeReal negative x) ++ "`"
  | text s => "string " ++ Text.quoted s
  | list => "sequence"
  | object => "map"

inductive Mismatch where
  | invalidType (found : Found) (expected : String)
  | invalidValue (found : Found) (expected : String)
  | invalidLength (length : Nat) (expected : String)
  | unknownVariant (name : String) (known : List String)
  | missingField (name : String)
  | duplicateField (name : String)
  deriving DecidableEq, Repr

def ticked (s : String) : String := "`" ++ s ++ "`"

def Mismatch.message : Mismatch → String
  | invalidType found expected => "invalid type: " ++ found.message ++ ", expected " ++ expected
  | invalidValue found expected => "invalid value: " ++ found.message ++ ", expected " ++ expected
  | invalidLength n expected => "invalid length " ++ toString n ++ ", expected " ++ expected
  | unknownVariant name known =>
    "unknown variant " ++ ticked name ++ ", expected one of " ++ ", ".intercalate (known.map ticked)
  | missingField name => "missing field " ++ ticked name
  | duplicateField name => "duplicate field " ++ ticked name

inductive Problem where
  | ended (inside : Unfinished)
  | malformed (fault : Fault)
  | mismatch (mismatch : Mismatch)
  deriving DecidableEq, Repr

namespace Problem

inductive Category where
  | ended | malformed | mismatch
  deriving DecidableEq, Repr

def category : Problem → Category
  | ended _ => .ended
  | malformed _ => .malformed
  | mismatch _ => .mismatch

def message : Problem → String
  | ended inside => inside.message
  | malformed fault => fault.message
  | mismatch m => m.message

end Problem

structure Flaw where
  problem : Problem
  spot : Text.Spot
  deriving DecidableEq, Repr

namespace Flaw

def ended (inside : Unfinished) : Flaw := ⟨.ended inside, .start []⟩

def malformed (fault : Fault) (bytes : Nat) (left : List Char) : Flaw :=
  ⟨.malformed fault, .into bytes left⟩

end Flaw

structure Located where
  problem : Problem
  place : Text.Place
  deriving DecidableEq, Repr

def Located.message (l : Located) : String := l.problem.message ++ " at " ++ l.place.text

end GridRobot.Json
