import GridRobot.Log
import GridRobot.Log.Pattern
import GridRobot.Text.Alphanumeric
import GridRobot.Text.Blank
import GridRobot.Text.Pieces

/-! Filters of log records. A filter is a list of directives. Each gives the least urgent
level that is kept, of all records or only of those whose target begins with some text
or which have some field. The most specific directive that applies to a record decides
whether it is kept; where none applies, it is not. -/
namespace GridRobot.Log

structure Directive where
  target : Option String
  field : Option String
  rank : Nat
  deriving DecidableEq, Repr

namespace Directive

def appliesTo (d : Directive) (r : Record) : Bool :=
  d.target.all (·.toList.isPrefixOf r.target.toList) && d.field.all r.hasField

/-- A directive is more specific the more of the target it fixes, then if it asks for a
field, and then by the name of the field. -/
def specificity (d : Directive) : Nat × Nat × String :=
  (d.target.elim 0 (·.utf8ByteSize + 1), if d.field.isSome then 1 else 0, d.field.getD "")

def isAtLeastAsSpecific (d e : Directive) : Bool :=
  let (length, fields, name) := d.specificity
  let (length', fields', name') := e.specificity
  length' < length || length' == length && (fields' < fields || fields' == fields && name' ≤ name)

end Directive

structure Filter where
  directives : List Directive
  deriving DecidableEq, Repr

namespace Filter

def deciding? (f : Filter) (r : Record) : Option Directive :=
  (f.directives.filter (·.appliesTo r)).foldl
    (fun best d =>
      match best with
      | none => some d
      | some b => if d.isAtLeastAsSpecific b then some d else some b) none

def keeps (f : Filter) (r : Record) : Bool :=
  (f.deciding? r).any (r.level.rank ≤ ·.rank)

def standard : Filter := ⟨[⟨none, none, Level.warn.rank⟩]⟩

end Filter

def rankNames : List (String × Nat) :=
  [("off", 0), ("error", 1), ("warn", 2), ("info", 3), ("debug", 4), ("trace", 5)]

def number? (word : List Char) : Option Nat :=
  let digits := if word.head? == some '+' then word.drop 1 else word
  if digits.isEmpty || !digits.all Char.isDigit then none
  else some (digits.foldl (fun n c => 10 * n + (c.toNat - '0'.toNat)) 0)

def rank? (word : List Char) : Option Nat :=
  match number? word with
  | some n => if n ≤ Level.trace.rank then some n else none
  | none => rankNames.lookup (String.ofList (word.map Char.toLower))

/-- A directive as it is written. Besides what a directive says it may name a span of
the program's work in which a record has to be made, and ask the field for a value. -/
structure Wording where
  target : Option (List Char)
  span : Option (List Char)
  field : Option (List Char × Option (List Char))
  rank : Nat
  deriving DecidableEq, Repr

namespace Wording

def empty : Wording := ⟨none, none, none, Level.trace.rank⟩

/-- What is said about records that are made in no span. Whether a field has a value is
asked of spans only. -/
def directive? (w : Wording) : Option Directive :=
  match w.span, w.field with
  | none, none => some ⟨w.target.map String.ofList, none, w.rank⟩
  | none, some (name, none) =>
    some ⟨w.target.map String.ofList, some (String.ofList name), w.rank⟩
  | _, _ => none

inductive Stage where
  | start
  | word (first : Nat)
  | span (first : Nat)
  | field (first : Nat)
  | afterField
  | afterSpan
  | level (first : Nat)
  deriving DecidableEq, Repr

def takeBytes : Nat → List Char → List Char
  | _, [] => []
  | n, c :: cs => if c.utf8Size ≤ n then c :: takeBytes (n - c.utf8Size) cs else []

def dropBytes : Nat → List Char → List Char
  | _, [] => []
  | n, c :: cs => if n = 0 then c :: cs else dropBytes (n - c.utf8Size) cs

def between (text : List Char) (first last : Nat) : List Char :=
  takeBytes (last - first) (dropBytes first text)

def field? (text : List Char) : Option (List Char × Option (List Char)) :=
  match Text.pieces '=' text with
  | [] | [[]] => none
  | [name] => some (name, none)
  | name :: value :: _ =>
    if Pattern.isPattern value || isSignedNumber value then some (name, some value) else none
where
  isSignedNumber (value : List Char) : Bool :=
    value.head? == some '+' && isUnsigned ((value.drop 1).map Char.toLower)
  isUnsigned (value : List Char) : Bool :=
    ["inf", "infinity", "nan"].contains (String.ofList value) ||
      isScaled (value.takeWhile (· != 'e')) (value.dropWhile (· != 'e'))
  isScaled (body exponent : List Char) : Bool :=
    let whole := body.takeWhile Char.isDigit
    let fraction := body.drop (whole.length + 1)
    (body.drop whole.length).head?.all (· == '.') && fraction.all Char.isDigit &&
      !(whole.isEmpty && fraction.isEmpty) && (exponent.isEmpty || isExponent (exponent.drop 1))
  isExponent (digits : List Char) : Bool :=
    let digits := if ['+', '-'].contains (digits.headD ' ') then digits.drop 1 else digits
    !digits.isEmpty && digits.all Char.isDigit

def step (text : List Char) : Wording × Stage → Nat × Char → Option (Wording × Stage)
  | (w, stage), (i, c) =>
    match stage with
    | .start =>
      if c == '[' then some (w, .span (i + 1))
      else if Text.isAlphanumeric c || ['-', ':', '_'].contains c then some (w, .word i)
      else none
    | .word first =>
      if c == '=' then some ({ w with target := some (between text first i) }, .level (i + 1))
      else if c == '[' then some ({ w with target := some (between text first i) }, .span (i + 1))
      else some (w, stage)
    | .span first =>
      let name := between text first i
      if c == ']' then some ({ w with span := some name }, .afterSpan)
      else if c == '{' then
        some ({ w with span := if name.isEmpty then none else some name }, .field (i + 1))
      else some (w, stage)
    | .field first =>
      if c == '}' then
        (field? (between text first i)).map fun f => ({ w with field := some f }, .afterField)
      else some (w, stage)
    | .afterField => if c == ']' then some (w, .afterSpan) else none
    | .afterSpan => if c == '=' then some (w, .level (i + 1)) else none
    | .level _ => some (w, stage)

def finish? (text : List Char) : Wording × Stage → Option Wording
  | (w, .word first) =>
    match rank? (dropBytes first text) with
    | some rank => some { w with rank := rank }
    | none => some { w with target := some (dropBytes first text) }
  | (w, .level first) =>
    let word := dropBytes first text
    if word.isEmpty then some w else (rank? word).map fun rank => { w with rank := rank }
  | (w, .afterSpan) => some w
  | _ => none

def placed (i : Nat) : List Char → List (Nat × Char)
  | [] => []
  | c :: cs => (i, c) :: placed (i + c.utf8Size) cs

/-- Reads a directive. Blanks around it are passed over in finding its parts, but places
in it are counted from its very beginning: with blanks around it, it is another one. -/
def read? (text : List Char) : Option Wording :=
  ((placed 0 (Text.trimmed text)).foldlM (step text) (empty, .start)).bind (finish? text)

end Wording

namespace Filter

def read? (text : String) : Option Filter := do
  let wordings ← ((Text.pieces ',' text.toList).filter (!·.isEmpty)).mapM Wording.read?
  return ⟨wordings.filterMap Wording.directive?⟩

def ofSetting (text : Option String) : Filter := (text.bind read?).getD standard

end Filter
end GridRobot.Log
