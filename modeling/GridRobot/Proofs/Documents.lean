import GridRobot.Proofs.Json.Records
import GridRobot.Proofs.Track
import GridRobot.Settings
import GridRobot.TrackFile

/-! The shapes of the documents. A track file and the settings are objects with their members in
any order and others among them, or lists of their fields. All members of a track file have to
be there; each of the settings may be left out and has its standard value then. -/
namespace GridRobot
open Json

namespace Track

def Written (t : Track) : List Char → Prop := ListOf (ListOf fun b cs => cs = writeBool b) t.rows

theorem readsTrack {t : Track} {cs : List Char} (written : t.Written cs) : Reads Track.reader t cs := by
  rw [Written,← cellsRows,listOfMap] at written
  refine readsMap Track.mk (readsArray (written.imp fun row cs cells => ?_))
  refine readsArray (ListOf.imp ?_ cells)
  rintro b _ rfl
  exact readsBool b

end Track

namespace TrackFile

def memberNames : List String := ["name","width","height","cells"]

def Fits (f : TrackFile) : String → List Char → Prop
  | "name" => TextOf f.name
  | "width" => fun cs => cs = writeNat f.width.toNat
  | "height" => fun cs => cs = writeNat f.height.toNat
  | "cells" => f.cells.Written
  | _ => fun _ => False

def draft (f : TrackFile) (names : List String) : Draft where
  name := if "name" ∈ names then some f.name else none
  width := if "width" ∈ names then some f.width else none
  height := if "height" ∈ names then some f.height else none
  cells := if "cells" ∈ names then some f.cells else none

theorem drafts (f : TrackFile) : Drafts fields f.Fits f.draft where
  set := by simp [fields,draft]
  read := by
    intro field inside names cs fits
    simp only [fields,List.mem_cons,List.not_mem_nil,or_false] at inside
    rcases inside with rfl | rfl | rfl | rfl
    · convert readsMap _ (readsText _ fits) using 1
      simp [draft]
    · cases fits
      convert readsMap _ (readsWord _ f.width) using 1
      simp [draft]
    · cases fits
      convert readsMap _ (readsWord _ f.height) using 1
      simp [draft]
    · convert readsMap _ (Track.readsTrack fits) using 1
      simp [draft]

theorem draftFinish (f : TrackFile) (names : List String) : (f.draft names).finish =
    match memberNames.find? (· ∉ names) with
    | none => .ok f
    | some missing => .error (.mismatch (.missingField missing)) := by
  unfold memberNames
  by_cases name : "name" ∈ names
  · by_cases width : "width" ∈ names
    · by_cases height : "height" ∈ names
      · by_cases cells : "cells" ∈ names
        · simp [draft,Draft.finish,required,name,width,height,cells]; rfl
        · simp [draft,Draft.finish,required,name,width,height,cells]; rfl
      · simp [draft,Draft.finish,required,name,width,height]; rfl
    · simp [draft,Draft.finish,required,name,width]; rfl
  · simp [draft,Draft.finish,required,name]; rfl

/- The fields of a track file as the reader takes them from a text, before they are checked. -/
def record : Reader Draft :=
  Reader.record "struct TrackFile" fields (some "struct TrackFile with 4 elements")
    ⟨none,none,none,none⟩

section Read
variable {f : TrackFile} {cs : List Char} {names : List String}
  (taken : ∀ rest, record.run (tokens (cs ++ rest)) = .ok (f.draft names,tokens rest))
  (before after : Gap)
include taken

theorem readComplete (complete : memberNames.find? (· ∉ names) = none) :
    reader.document (String.ofList (before.chars ++ (cs ++ after.chars))) = .ok f := by
  refine documentRead (fun rest _ => checkRun (taken rest) ?_) before after
  rw [draftFinish,complete]

theorem readIncomplete {missing : String} (first : memberNames.find? (· ∉ names) = some missing) :
    reader.Refuses (String.ofList (before.chars ++ (cs ++ after.chars))) (.missingField missing) := by
  refine documentRefused (fun rest => ⟨.behind (tokens rest) _,?_,rfl⟩) before after
  change (record.check Draft.finish).run _ = _
  simp only [Reader.check,taken,draftFinish,first,bind,Except.bind]

end Read

structure Shapes (f : TrackFile) : Prop where
  object : ∀ o : ObjectText, (∀ m ∈ o.members, m.Suits memberNames f.Fits) →
    (given memberNames o.members).Perm memberNames → reader.document o.text = .ok f
  list : ∀ l : ListText, List.Forall₂ (fun name i => f.Fits name i.value) memberNames l.items →
    reader.document l.text = .ok f
  incomplete : ∀ o : ObjectText, (∀ m ∈ o.members, m.Suits memberNames f.Fits) →
    (given memberNames o.members).Nodup →
    ∀ missing, memberNames.find? (· ∉ given memberNames o.members) = some missing →
      reader.Refuses o.text (.missingField missing)
  repeated : ∀ o : ObjectText, (∀ m ∈ o.members, m.Suits memberNames f.Fits) →
    ¬ (given memberNames o.members).Nodup →
    ∃ name, (given memberNames o.members).Duplicate name ∧
      reader.Refuses o.text (.duplicateField name)

theorem shapes (f : TrackFile) : f.Shapes where
  object := by
    intro o suits order
    have once : (given memberNames o.members).Nodup := order.nodup_iff.mpr (by decide)
    refine readComplete (objectRead f.drafts record rfl suits once o.last) o.before o.after ?_
    refine List.find?_eq_none.mpr fun name known => ?_
    rw [decide_eq_true_eq,Decidable.not_not]
    exact order.mem_iff.mpr known
  list := by
    intro l each
    have taken := listRead f.drafts record rfl (List.append_nil fields).symm each
      (.inl rfl) l.last
    exact readComplete taken l.before l.after (by decide)
  incomplete := by
    intro o suits once missing first
    exact readIncomplete (objectRead f.drafts record rfl suits once o.last) o.before o.after first
  repeated := by
    intro o suits again
    obtain ⟨name,twice,refused⟩ := objectRepeated f.drafts record rfl suits again o.last
    refine ⟨name,twice,documentRefused (fun rest => ?_) o.before o.after⟩
    obtain ⟨after,stopped⟩ := refused rest
    refine ⟨_,?_,repeatedProblem name after⟩
    change (record.check Draft.finish).run _ = _
    simp only [Reader.check,stopped,bind,Except.bind]

end TrackFile

namespace Settings

def memberNames : List String := ["turn_delay_ms","step_delay_ms","custom_track"]

def Fits (s : Settings) : String → List Char → Prop
  | "turn_delay_ms" => fun cs => cs = writeNat s.turnDelay.toNat
  | "step_delay_ms" => fun cs => cs = writeNat s.stepDelay.toNat
  | "custom_track" => TextOf s.customTrack
  | _ => fun _ => False

def keeping (s : Settings) (names : List String) : Settings where
  turnDelay := if "turn_delay_ms" ∈ names then s.turnDelay else standard.turnDelay
  stepDelay := if "step_delay_ms" ∈ names then s.stepDelay else standard.stepDelay
  customTrack := if "custom_track" ∈ names then s.customTrack else standard.customTrack

def draft (s : Settings) (names : List String) : Draft where
  turnDelay := if "turn_delay_ms" ∈ names then some s.turnDelay else none
  stepDelay := if "step_delay_ms" ∈ names then some s.stepDelay else none
  customTrack := if "custom_track" ∈ names then some s.customTrack else none

theorem drafts (s : Settings) : Drafts fields s.Fits s.draft where
  set := by simp [fields,draft]
  read := by
    intro field inside names cs fits
    simp only [fields,List.mem_cons,List.not_mem_nil,or_false] at inside
    rcases inside with rfl | rfl | rfl
    · cases fits
      convert readsMap _ (readsWord _ s.turnDelay) using 1
      simp [draft]
    · cases fits
      convert readsMap _ (readsWord _ s.stepDelay) using 1
      simp [draft]
    · convert readsMap _ (readsText _ fits) using 1
      simp [draft]

theorem draftFinish (s : Settings) (names : List String) : (s.draft names).finish = s.keeping names := by
  have kept {α : Type} {p : Prop} [Decidable p] (a b : α) :
      (if p then some a else none).getD b = if p then a else b := by split <;> rfl
  simp only [draft,Draft.finish,keeping,kept]

def record : Reader Draft := Reader.record "struct SimulatorConfig" fields none ⟨none,none,none⟩

theorem readKept {s : Settings} {cs : List Char} {names : List String}
    (taken : ∀ rest, record.run (tokens (cs ++ rest)) = .ok (s.draft names,tokens rest))
    (before after : Gap) :
    reader.document (String.ofList (before.chars ++ (cs ++ after.chars))) = .ok (s.keeping names) := by
  refine documentRead (fun rest _ => ?_) before after
  change (record.map Draft.finish).run _ = _
  simp only [Reader.map,taken,draftFinish,Except.map]

structure Shapes (s : Settings) : Prop where
  object : ∀ o : ObjectText, (∀ m ∈ o.members, m.Suits memberNames s.Fits) →
    (given memberNames o.members).Nodup →
    reader.document o.text = .ok (s.keeping (given memberNames o.members))
  list : ∀ (l : ListText) (n : Nat),
    List.Forall₂ (fun name i => s.Fits name i.value) (memberNames.take n) l.items →
    reader.document l.text = .ok (s.keeping (memberNames.take n))
  repeated : ∀ o : ObjectText, (∀ m ∈ o.members, m.Suits memberNames s.Fits) →
    ¬ (given memberNames o.members).Nodup →
    ∃ name, (given memberNames o.members).Duplicate name ∧
      reader.Refuses o.text (.duplicateField name)

theorem shapes (s : Settings) : s.Shapes where
  object := by
    intro o suits once
    exact readKept (objectRead s.drafts record rfl suits once o.last) o.before o.after
  list := by
    intro l n each
    have names : memberNames.take n = fieldNames (fields.take n) := by
      rw [fieldNames,List.map_take]
      rfl
    rw [names] at each ⊢
    have taken := listRead s.drafts record rfl (List.take_append_drop n fields).symm each
      (.inr rfl) l.last
    exact readKept taken l.before l.after
  repeated := by
    intro o suits again
    obtain ⟨name,twice,refused⟩ := objectRepeated s.drafts record rfl suits again o.last
    refine ⟨name,twice,documentRefused (fun rest => ?_) o.before o.after⟩
    obtain ⟨after,stopped⟩ := refused rest
    refine ⟨_,?_,repeatedProblem name after⟩
    change (record.map Draft.finish).run _ = _
    simp only [Reader.map,stopped,Except.map]

end Settings

theorem documentShapes : (∀ f : TrackFile, f.Shapes) ∧ ∀ s : Settings, s.Shapes :=
  ⟨TrackFile.shapes,Settings.shapes⟩

namespace Settings

def hasty : Settings := ⟨7,0,""⟩

/- One name is unknown, and the other is written with an escape. -/
def hastyText : ObjectText where
  before := .none
  members := [
    { before := .none, key := "note".toList, beforeColon := .none, afterColon := .none
      value := listText [] .none, after := .none, name := "note"
      means := plainMeans (by simp [Ordinary]) },
    { before := .none, key := '\\' :: 'u' :: ("0074".toList ++ "urn_delay_ms".toList)
      beforeColon := .none, afterColon := .none
      value := writeNat 7, after := .none, name := "turn_delay_ms"
      means := .unit ⟨0,0,7,4,rfl,rfl⟩ (by decide) (plainMeans (by simp [Ordinary])) }]
  last := .none
  after := .none

theorem hastyRead :
    hastyText.text = "\x7b\"note\":[],\"\\u0074urn_delay_ms\":7\x7d" ∧
      reader.document hastyText.text = .ok ⟨7,600,"trackbot-track.json"⟩ := by
  have suits : ∀ m ∈ hastyText.members, m.Suits memberNames hasty.Fits := by
    intro m inside
    simp only [hastyText,List.mem_cons,List.not_mem_nil,or_false] at inside
    rcases inside with rfl | rfl
    · exact ⟨fun known => absurd known (by decide),fun _ => .list (by simp)⟩
    · exact ⟨fun _ => rfl,fun unknown => absurd (by decide) unknown⟩
  exact ⟨rfl,(documentShapes.2 hasty).object hastyText suits (by decide)⟩

end Settings

end GridRobot
