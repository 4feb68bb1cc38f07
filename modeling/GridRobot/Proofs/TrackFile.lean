import GridRobot.Proofs.Documents
import GridRobot.Proofs.Json.Taking
import GridRobot.Proofs.Json.Writing
import GridRobot.Proofs.Storage
import GridRobot.Proofs.Words

/-! Saving and loading track files. The text that is saved is an object with the four members in
their order, so it is read as the file that it was written from; whether that is accepted depends
on the file alone. -/
namespace GridRobot
open Json

def Track.array (rows : List (List Bool)) : Value := .list (rows.map fun row => .list (row.map .bool))

theorem Track.valueArray (t : Track) : t.value = array t.rows := by
  rw [array,← cellsRows,List.map_map]
  rfl

theorem Track.tellsArray {rows : List (List Bool)} {cs : List Char} :
    Tells (array rows) cs ↔ ListOf (ListOf fun b cs => cs = writeBool b) rows cs := by
  rw [array,tellsList,listOfMap]
  constructor
  · refine ListOf.imp fun row cs tells => (listOfMap.mp (tellsList.mp tells)).imp fun b cs tells => ?_
    cases tells
    rfl
  · refine ListOf.imp fun row cs cells => tellsList.mpr (listOfMap.mpr (cells.imp fun b cs same => ?_))
    cases same
    exact .bool b

theorem Track.tellsTrack {t : Track} {cs : List Char} : Tells t.value cs ↔ t.Written cs := by
  rw [valueArray]
  exact tellsArray

def Track.tokens (t : Track) : List Token :=
  listTokens (listTokens fun b => [.word (.ok (if b then .true else .false))]) t.rows

theorem Track.takesTokens : Takes Track.reader Track.tokens := by
  intro ts t rest read
  obtain ⟨cells,taken,rfl⟩ := mapRun read
  rw [tokens,← cellsRows,listTokensMap]
  exact takesArray (takesArray takesBool Grid.cols) Grid.rows ts cells rest taken

namespace TrackFile

theorem valueObject (f : TrackFile) :
    ∃ o : ObjectText, format.text f = o.text ∧ o.members.map (·.name) = memberNames ∧
      ∀ m ∈ o.members, f.Fits m.name m.value := by
  refine objectOfDocument (spreadDocument f.value) fun m inside cs tells => ?_
  simp only [List.mem_cons,List.not_mem_nil,or_false] at inside
  rcases inside with rfl | rfl | rfl | rfl
  · exact tells.textOf
  · exact tells.natural
  · exact tells.natural
  · exact Track.tellsTrack.mp tells

theorem readText (f : TrackFile) : reader.document (format.text f) = .ok f := by
  obtain ⟨o,same,names,fits⟩ := f.valueObject
  obtain ⟨suits,all⟩ := membersKnown names fits
  rw [same]
  exact (shapes f).object o suits (List.Perm.of_eq all)

theorem validateOk {f : TrackFile} : f.validate = .ok () ↔
    f.width.toNat = 5 ∧ f.height.toNat = 4 ∧ ∃ c ∈ f.name.toList, ¬ Text.White c := by
  have blank : Text.allBlank f.name.toList = true ↔ ¬ ∃ c ∈ f.name.toList, ¬ Text.White c := by
    simp [Text.allBlank,Text.blankWhite]
  unfold validate
  split
  · rename_i all
    simp [blank.mp all]
  · rename_i filled
    have named := not_not.mp (mt blank.mpr filled)
    split
    · rename_i other
      simp only [reduceCtorEq,false_iff]
      rintro ⟨width,height,_⟩
      exact other.elim (· width) (· height)
    · rename_i size
      have ⟨width,height⟩ := not_or.mp size
      simpa [named] using ⟨not_not.mp width,not_not.mp height⟩

theorem validateError {f : TrackFile} {e : Failure} (refused : f.validate = .error e) :
    ∃ message, e = .track message := by
  unfold validate at refused
  split at refused
  · cases refused
    exact ⟨_,rfl⟩
  · split at refused
    · cases refused
      exact ⟨_,rfl⟩
    · contradiction

theorem loadSaved {f : TrackFile} {d : Directory} {path : String}
    (kept : d.read path = .ok (format.text f)) :
    load d path = match f.validate with
      | .ok () => .ok f
      | .error e => .error (.invalid e) := format.loadKept f.readText kept

/-! What is accepted. -/

def Holds (all : List Token) (d : Draft) : Prop := ∀ t, d.cells = some t → t.tokens <:+: all

theorem keepsCells (all : List Token) : Keeps fields all (Holds all) where
  leaves := by
    intro f inside d
    simp only [fields,List.mem_cons,List.not_mem_nil,or_false] at inside
    rcases inside with rfl | rfl | rfl | rfl <;> dsimp only
    · exact leavesMap (leavesOne _) _
    · exact leavesMap (leavesOne _) _
    · exact leavesMap (leavesOne _) _
    · exact leavesMap Track.takesTokens.leaves _
  kept := by
    intro f inside d d' ts rest part held read
    simp only [fields,List.mem_cons,List.not_mem_nil,or_false] at inside
    rcases inside with rfl | rfl | rfl | rfl <;> dsimp only at read
    · obtain ⟨_,_,rfl⟩ := mapRun read
      exact held
    · obtain ⟨_,_,rfl⟩ := mapRun read
      exact held
    · obtain ⟨_,_,rfl⟩ := mapRun read
      exact held
    · obtain ⟨t,taken,rfl⟩ := mapRun read
      intro t' same
      cases same
      have front : t.tokens <+: ts := ⟨rest,(Track.takesTokens ts t rest taken).symm⟩
      exact front.isInfix.trans part.isInfix

theorem finishCells {d : Draft} {g : TrackFile} (finished : d.finish = .ok g) :
    d.cells = some g.cells := by
  obtain ⟨name,width,height,cells⟩ := d
  cases name <;> cases width <;> cases height <;> cases cells <;> cases finished
  rfl

theorem documentCells {text : String} {g : TrackFile} (read : reader.document text = .ok g) :
    g.cells.tokens <:+: tokens text.toList := by
  have taken : ∃ rest, (record.check Draft.finish).run (tokens text.toList) = .ok (g,rest) := by
    unfold Reader.document at read
    split at read
    · contradiction
    · rename_i taken
      cases read
      exact ⟨_,taken⟩
    · contradiction
  obtain ⟨rest,taken⟩ := taken
  simp only [Reader.check,bind,Except.bind] at taken
  split at taken
  · contradiction
  · rename_i drafted
    split at taken
    · contradiction
    · rename_i finished
      cases taken
      exact recordKeeps (keepsCells _) drafted (by simp [Holds]) _ (finishCells finished)

structure Saved (f : TrackFile) (d : Directory) (path : String) : Prop where
  document : ∃ o : ObjectText, d.read path = .ok o.text ∧
    o.members.map (·.name) = memberNames ∧ ∀ m ∈ o.members, f.Fits m.name m.value
  loads : load d path = .ok f ↔ f.validate = .ok ()
  refuses : ∀ e, f.validate = .error e →
    (∃ reason, e = .track reason) ∧ load d path = .error (.invalid e)

structure Loaded (g : TrackFile) (d : Directory) (path : String) : Prop where
  width : g.width.toNat = 5
  height : g.height.toNat = 4
  named : ∃ c ∈ g.name.toList, ¬ Text.White c
  full : g.cells.rows.map List.length = [5,5,5,5]
  document : ∃ text, d.read path = .ok text ∧ g.cells.tokens <:+: tokens text.toList
  again : ∀ d₁ d₂ path', g.save d₁ path' = .ok d₂ → load d₂ path' = .ok g

theorem savedKnown {f : TrackFile} {d d' : Directory} {path : String}
    (saved : f.save d path = .ok d') : f.Saved d' path where
  document := by
    obtain ⟨o,same,members⟩ := f.valueObject
    exact ⟨o,same ▸ DocumentFormat.saveRead saved,members⟩
  loads := by
    rw [loadSaved (DocumentFormat.saveRead saved)]
    cases f.validate <;> simp
  refuses := by
    intro e refused
    refine ⟨validateError refused,?_⟩
    rw [loadSaved (DocumentFormat.saveRead saved),refused]

theorem loadedKnown {d : Directory} {path : String} {g : TrackFile}
    (loaded : load d path = .ok g) : g.Loaded d path := by
  obtain ⟨valid,text,content,parsed⟩ := format.loadAccepted.mp loaded
  obtain ⟨width,height,named⟩ := validateOk.mp valid
  exact {
    width, height, named
    full := g.cells.rowsShape
    document := ⟨text,content,documentCells parsed⟩
    again := fun _ _ _ saved => (savedKnown saved).loads.mpr valid }

theorem survivesIffValid :
    (∀ (f : TrackFile) (d d' : Directory) (path : String),
      f.save d path = .ok d' → f.Saved d' path) ∧
    ∀ (d : Directory) (path : String) (g : TrackFile), load d path = .ok g → g.Loaded d path :=
  ⟨fun _ _ _ _ => savedKnown,fun _ _ _ => loadedKnown⟩

theorem emptyTrackSurvives : ∃ d,
    (new "\"\\\x07" .empty).save .beside "/tmp/saved.json" = .ok d ∧
      load d "/tmp/saved.json" = .ok (new "\"\\\x07" .empty) := by
  obtain ⟨d,saved⟩ : ∃ d, (new "\"\\\x07" .empty).save .beside "/tmp/saved.json" = .ok d := ⟨_,rfl⟩
  exact ⟨d,saved,(survivesIffValid.1 _ _ _ _ saved).loads.mpr rfl⟩

end TrackFile

end GridRobot
