import GridRobot.Text.Printable

/-! Quoted text, as messages show names and values: between double quotes, with
backslashes before quotes and backslashes, short escapes for the usual controls and
the code point in braces for whatever else is not printable. -/
namespace GridRobot.Text

def hex (c : Char) : List Char := Nat.toDigits 16 c.toNat

def quoteChar (c : Char) : List Char :=
  match c with
  | '\x00' => ['\\', '0']
  | '\t' => ['\\', 't']
  | '\n' => ['\\', 'n']
  | '\r' => ['\\', 'r']
  | '"' => ['\\', '"']
  | '\\' => ['\\', '\\']
  | c => if isPrintable c then [c] else '\\' :: 'u' :: '{' :: hex c ++ ['}']

def quoted (s : String) : String := String.ofList ('"' :: s.toList.flatMap quoteChar ++ ['"'])

end GridRobot.Text
