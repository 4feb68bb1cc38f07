import GridRobot.Json.Record
import GridRobot.Json.Value
import GridRobot.Program
import GridRobot.Track

/-! The shapes of instructions, programs, positions and tracks in a document. A
program is the list of its tags, a position an object of two words, a track the rows
of its cells. -/
namespace GridRobot

open Json (Value Reader RecordField Problem Halt)

namespace Instruction

def value (i : Instruction) : Value := .text i.tag

def ofTag (ts : List Json.Token) (tag : Except Json.Flaw (List Char)) : Except Halt Instruction :=
  match tag with
  | .error flaw => .error (.inside flaw)
  | .ok cs =>
    match ofTag? (String.ofList cs) with
    | some i => .ok i
    | none =>
      .error (.behind ts
        (.mismatch (.unknownVariant (String.ofList cs) (all.map Instruction.tag))))

def endTagged (ts : List Json.Token) : Except Halt (List Json.Token) :=
  match (Reader.null "unit").memberValue.run ts with
  | .error h => .error h
  | .ok (_, []) => .error (.ended .object)
  | .ok (_, .closeObject :: rest) => .ok rest
  | .ok (_, rest) => .error (.before rest (.malformed .expectedValue))

theorem endTaggedShorter {ts rest : List Json.Token} (h : endTagged ts = .ok rest) :
    rest.length < ts.length := by
  unfold endTagged at h
  split at h
  · cases h
  · cases h
  · rename_i read
    have := (Reader.null "unit").memberValue.shorter read
    cases h; simp only [List.length_cons] at this; omega
  · cases h

/-- Takes the tokens of one instruction: its tag alone, or an object with the tag as its
only key and null as its value. -/
def readTokens (ts : List Json.Token) : Except Halt (Instruction × List Json.Token) :=
  match ts with
  | [] | .openObject :: [] => .error (.ended .value)
  | .text tag _ :: rest => (ofTag rest tag).map (·, rest)
  | .openObject :: .text tag _ :: rest =>
    (ofTag rest tag).bind fun i => (endTagged rest).map (i, ·)
  | .openObject :: rest => .error (.malformed rest .keyNotText)
  | _ => .error (.malformed ts .expectedValue)

theorem readTokensShorter {ts rest : List Json.Token} {i : Instruction}
    (h : readTokens ts = .ok (i, rest)) : rest.length < ts.length := by
  unfold readTokens at h
  split at h
  · cases h
  · cases h
  · rename_i tag _ tail
    cases ht : ofTag tail tag with
    | error p => simp only [ht] at h; cases h
    | ok j => simp only [ht, Except.map] at h; cases h; simp
  · rename_i tag _ tail
    cases ht : ofTag tail tag with
    | error p => simp only [ht] at h; cases h
    | ok j =>
      cases he : endTagged tail with
      | error p => simp only [ht, he] at h; cases h
      | ok last =>
        have := endTaggedShorter he
        simp only [ht, he] at h
        cases h; simp only [List.length_cons]; omega
  · cases h
  · cases h

def reader : Reader Instruction := ⟨readTokens, readTokensShorter⟩

end Instruction

namespace Program

def value (p : Program) : Value := .list (p.instructions.map Instruction.value)

def reader : Reader Program := (Reader.list Instruction.reader).map Program.mk

def ofJson (text : String) : Except Json.Located Program := reader.document text

end Program

namespace Position

def value (p : Position) : Value :=
  .object [("row", .number p.row.toNat), ("col", .number p.col.toNat)]

structure Draft where
  row : Option UInt64
  col : Option UInt64

def fields : List (RecordField Draft) :=
  [⟨"row", (·.row.isSome), fun d => (Reader.word "usize").map fun n => { d with row := some n }⟩,
   ⟨"col", (·.col.isSome), fun d => (Reader.word "usize").map fun n => { d with col := some n }⟩]

def Draft.finish (d : Draft) : Except Problem Position := do
  return ⟨← Json.required "row" d.row, ← Json.required "col" d.col⟩

def reader : Reader Position :=
  (Reader.record "struct Position" fields (some "struct Position with 2 elements")
    ⟨none, none⟩).check Draft.finish

def ofJson (text : String) : Except Json.Located Position := reader.document text

end Position

namespace Track

def value (t : Track) : Value :=
  .list (t.cells.toList.map fun row => .list (row.toList.map Value.bool))

def reader : Reader Track :=
  (Reader.array (Reader.array Reader.bool Grid.cols) Grid.rows).map Track.mk

def ofJson (text : String) : Except Json.Located Track := reader.document text

end Track
end GridRobot
