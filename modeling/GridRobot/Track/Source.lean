import GridRobot.Session
import GridRobot.Track.Presets
import GridRobot.TrackFile

/-! Where tracks come from: a fixed preset, a preset drawn at random, or a file. The
draw is handed in. A source that fails is replaced by another one, with a notice that
names both; of the sources it counts only what they offer. -/
namespace GridRobot

inductive TrackSource where
  | preset (index : UInt64)
  | random
  | file (path : String)
  deriving DecidableEq, Repr

abbrev Draw := Fin 3

/-- There is always a preset to draw. -/
instance somePreset : @NeZero Nat Zero.ofOfNat0 3 := Nat.instNeZeroSucc

namespace TrackSource

inductive Error where
  | unknownPreset (index : UInt64)
  | document (error : DocumentError)
  deriving DecidableEq, Repr

namespace Error

def message : Error → String
  | unknownPreset index => "Unknown preset " ++ toString index.toNat ++ " (expected 0..3)"
  | document error => error.message

def cause? : Error → Option String
  | unknownPreset _ => none
  | document error => error.cause?

end Error

def describe : TrackSource → String
  | preset index => "preset " ++ toString index.toNat
  | random => "random preset"
  | file path => path

def load (d : Directory) (draw : Draw) : TrackSource → Except Error Track
  | preset index =>
    match Track.preset? index with
    | some t => .ok t
    | none => .error (.unknownPreset index)
  | random => .ok (Track.presets.get draw)
  | file path =>
    match TrackFile.load d path with
    | .ok f => .ok f.cells
    | .error e => .error (.document e)

structure Loaded where
  track : Track
  notice : Option Notice
  deriving DecidableEq, Repr

/-- What a source gives when it is asked, and what it is called. -/
structure Offer (ε : Type) where
  given : Except ε Track
  name : String

def offer (d : Directory) (draw : Draw) (s : TrackSource) : Offer Error :=
  ⟨s.load d draw, s.describe⟩

def replaced (primary fallback : String) : Notice :=
  ⟨"Could not load " ++ primary ++ " (using " ++ fallback ++ ").", false⟩

def Offer.orElse {ε ε' : Type} (primary : Offer ε) (fallback : Offer ε') : Loaded :=
  match primary.given with
  | .ok track => ⟨track, none⟩
  | .error _ =>
    let track := match fallback.given with
      | .ok track => track
      | .error _ => .empty
    ⟨track, some (replaced primary.name fallback.name)⟩

def withFallback (d : Directory) (draw : Draw) (primary fallback : TrackSource) : Loaded :=
  (primary.offer d draw).orElse (fallback.offer d draw)

def customOrPreset (d : Directory) (draw : Draw) (custom : Option String) : Loaded :=
  match custom.filter d.isFile with
  | some path => withFallback d draw (.file path) .random
  | none => ⟨Track.presets.get draw, none⟩

end TrackSource
end GridRobot
