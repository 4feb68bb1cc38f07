import GridRobot.Json.Text

/-! Values to be written. The compact form has no spaces; the spread form puts every
item and member on a line of its own, two spaces deeper for each list or object
around it, and ends without a line break. -/
namespace GridRobot.Json

inductive Value where
  | null
  | bool (b : Bool)
  | number (n : Nat)
  | text (s : String)
  | list (items : List Value)
  | object (members : List (String × Value))

def writeBool (b : Bool) : List Char := (if b then "true" else "false").toList

def writeNat (n : Nat) : List Char := Nat.toDigits 10 n

namespace Value

mutual

def compact : Value → List Char
  | null => "null".toList
  | bool b => writeBool b
  | number n => writeNat n
  | text s => writeText s.toList
  | list [] => ['[', ']']
  | list (v :: vs) => '[' :: v.compact ++ compactItems vs ++ [']']
  | object [] => ['{', '}']
  | object (m :: ms) => '{' :: compactMember m ++ compactMembers ms ++ ['}']

def compactItems : List Value → List Char
  | [] => []
  | v :: vs => ',' :: v.compact ++ compactItems vs

def compactMember : String × Value → List Char
  | (key, v) => writeText key.toList ++ ':' :: v.compact

def compactMembers : List (String × Value) → List Char
  | [] => []
  | m :: ms => ',' :: compactMember m ++ compactMembers ms

end

def newLine (depth : Nat) : List Char := '\n' :: List.replicate (2 * depth) ' '

mutual

def spread (depth : Nat) : Value → List Char
  | null => "null".toList
  | bool b => writeBool b
  | number n => writeNat n
  | text s => writeText s.toList
  | list [] => ['[', ']']
  | list (v :: vs) =>
    '[' :: newLine (depth + 1) ++ v.spread (depth + 1) ++ spreadItems (depth + 1) vs ++
      newLine depth ++ [']']
  | object [] => ['{', '}']
  | object (m :: ms) =>
    '{' :: newLine (depth + 1) ++ spreadMember (depth + 1) m ++ spreadMembers (depth + 1) ms ++
      newLine depth ++ ['}']

def spreadItems (depth : Nat) : List Value → List Char
  | [] => []
  | v :: vs => ',' :: newLine depth ++ v.spread depth ++ spreadItems depth vs

def spreadMember (depth : Nat) : String × Value → List Char
  | (key, v) => writeText key.toList ++ ':' :: ' ' :: v.spread depth

def spreadMembers (depth : Nat) : List (String × Value) → List Char
  | [] => []
  | m :: ms => ',' :: newLine depth ++ spreadMember depth m ++ spreadMembers depth ms

end

def compactText (v : Value) : String := String.ofList v.compact

def spreadText (v : Value) : String := String.ofList (v.spread 0)

end Value
end GridRobot.Json
