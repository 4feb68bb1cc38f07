import GridRobot.Document
import GridRobot.Json.Shape
import GridRobot.Text.Blank

/-! Track files. A track file is a document with the name of a track, the size it
claims to have, and its cells. It is valid if the name is not blank and the size is
that of the grid. -/
namespace GridRobot

open Json (Value Reader RecordField Problem)

structure TrackFile where
  name : String
  width : UInt64
  height : UInt64
  cells : Track
  deriving DecidableEq, Repr

namespace TrackFile

def new (name : String) (track : Track) : TrackFile :=
  ⟨name, UInt64.ofNat Grid.cols, UInt64.ofNat Grid.rows, track⟩

def sizeText (width height : Nat) : String := toString width ++ "x" ++ toString height

def validate (f : TrackFile) : Except Failure Unit :=
  if Text.allBlank f.name.toList then .error (.track "track name must be specified")
  else if f.width.toNat ≠ Grid.cols ∨ f.height.toNat ≠ Grid.rows then
    .error (.track ("track is " ++ sizeText f.width.toNat f.height.toNat ++ " but the grid is " ++
      sizeText Grid.cols Grid.rows))
  else .ok ()

def value (f : TrackFile) : Value :=
  .object [("name", .text f.name), ("width", .number f.width.toNat),
    ("height", .number f.height.toNat), ("cells", f.cells.value)]

structure Draft where
  name : Option String
  width : Option UInt64
  height : Option UInt64
  cells : Option Track

def fields : List (RecordField Draft) :=
  [⟨"name", (·.name.isSome),
      fun d => (Reader.text "a string").map fun s => { d with name := some s }⟩,
   ⟨"width", (·.width.isSome),
      fun d => (Reader.word "usize").map fun n => { d with width := some n }⟩,
   ⟨"height", (·.height.isSome),
      fun d => (Reader.word "usize").map fun n => { d with height := some n }⟩,
   ⟨"cells", (·.cells.isSome), fun d => Track.reader.map fun t => { d with cells := some t }⟩]

def Draft.finish (d : Draft) : Except Problem TrackFile := do
  return ⟨← Json.required "name" d.name, ← Json.required "width" d.width,
    ← Json.required "height" d.height, ← Json.required "cells" d.cells⟩

def reader : Reader TrackFile :=
  (Reader.record "struct TrackFile" fields (some "struct TrackFile with 4 elements")
    ⟨none, none, none, none⟩).check Draft.finish

def format : DocumentFormat TrackFile := ⟨.track, value, reader, validate⟩

def load (d : Directory) (path : String) : Except DocumentError TrackFile := format.load d path

def save (f : TrackFile) (d : Directory) (path : String) : Except DocumentError Directory :=
  format.save f d path

end TrackFile
end GridRobot
