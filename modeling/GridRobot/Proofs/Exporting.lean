import GridRobot.Proofs.Scripts
import GridRobot.Proofs.TrackFile

/-! Exporting a preset. The export writes whatever name it is given, but a track file whose name is
blank is refused by all that read it. So an export that reports success has written a file that
stands for the preset just if the name has some character that is not blank. -/
namespace GridRobot

namespace TrackFile

theorem validateBlank {name : String} (blank : ∀ c ∈ name.toList, Text.White c) (track : Track) :
    (new name track).validate = .error (.track "track name must be specified") := by
  have all : Text.allBlank name.toList = true :=
    List.all_eq_true.mpr fun c inside => Text.blankWhite.mpr (blank c inside)
  exact if_pos all

theorem validateNamed {name : String} (named : ∃ c ∈ name.toList, ¬ Text.White c) (track : Track) :
    (new name track).validate = .ok () :=
  validateOk.mpr ⟨rfl,rfl,named⟩

end TrackFile

namespace CommandLine

theorem exportSucceeds {index : UInt64} {name out : String} {draw : Draw} {d : Directory}
    (success : ((exportPreset index name out).perform draw d).code = 0) :
    ∃ track d', Track.preset? index = some track ∧ (TrackFile.new name track).save d out = .ok d' ∧
      (exportPreset index name out).perform draw d =
        ⟨[.print (marked true ("Preset " ++ toString index.toNat ++ " written to " ++ out))],0,d'⟩ := by
  unfold exportPreset at success ⊢
  cases preset : Track.preset? index with
  | none => simp [preset,reportFails] at success
  | some track =>
    simp only [preset,Script.perform,DocumentFormat.ofWritten] at success ⊢
    cases written : d.write out (TrackFile.format.text (TrackFile.new name track)) with
    | error fault => simp [written,reportFails] at success
    | ok d' =>
      refine ⟨track,d',rfl,?_,rfl⟩
      rw [TrackFile.save,DocumentFormat.save,written]
      rfl

section Reading
variable {path : String} {d : Directory}

theorem validateLoaded {f : TrackFile} (loaded : TrackFile.load d path = .ok f) (l : Logger)
    (draw : Draw) : (validate l path).perform draw d = ⟨[.print (validText f)],0,d⟩ := by
  have read : TrackFile.format.ofRead path (d.read path) = .ok f := loaded
  simp only [validate,Script.perform,read]

theorem validateRefused {e : DocumentError} (refused : TrackFile.load d path = .error e) (l : Logger)
    (draw : Draw) : ((validate l path).perform draw d).code = 1 := by
  have read : TrackFile.format.ofRead path (d.read path) = .error e := refused
  simp only [validate,Script.perform,read,(logAgrees l _ _ draw d).code]

theorem withTrackLoaded {f : TrackFile} (loaded : TrackFile.load d path = .ok f)
    (preset : Option UInt64) (next : Track → Script) (draw : Draw) :
    (withTrack (some path) preset next).perform draw d = (next f.cells).perform draw d := by
  have read : TrackFile.format.ofRead path (d.read path) = .ok f := loaded
  simp only [withTrack,Script.perform,read]

theorem withTrackRefused {e : DocumentError} (refused : TrackFile.load d path = .error e)
    (preset : Option UInt64) (next : Track → Script) (draw : Draw) :
    ((withTrack (some path) preset next).perform draw d).code = 1 := by
  have read : TrackFile.format.ofRead path (d.read path) = .error e := refused
  simp only [withTrack,Script.perform,read]
  exact reportFails _ draw d

end Reading

structure StandsFor (index : UInt64) (name path : String) (d : Directory) : Prop where
  loads : ∃ f, TrackFile.load d path = .ok f ∧ f.name = name ∧ Track.preset? index = some f.cells
  valid : ∀ terminal l settings draw,
    ((carryOut terminal l settings (.validate path)).perform draw d).code = 0
  runs : ∀ terminal l settings program turn step draw,
    (carryOut terminal l settings (.run program (some path) none turn step)).perform draw d =
      (carryOut terminal l settings (.run program none (some index) turn step)).perform draw d

structure Nameless (path : String) (d : Directory) : Prop where
  loads : TrackFile.load d path = .error (.invalid (.track "track name must be specified"))
  valid : ∀ terminal l settings draw,
    ((carryOut terminal l settings (.validate path)).perform draw d).code = 1
  runs : ∀ terminal l settings program turn step draw,
    ((carryOut terminal l settings (.run program (some path) none turn step)).perform draw d).code = 1

theorem savedStandsFor {index : UInt64} {track : Track} (preset : Track.preset? index = some track)
    {name : String} (named : ∃ c ∈ name.toList, ¬ Text.White c) {path : String} {d : Directory}
    (kept : d.read path = .ok (TrackFile.format.text (TrackFile.new name track))) :
    StandsFor index name path d := by
  have loaded := TrackFile.loadSaved kept
  rw [TrackFile.validateNamed named] at loaded
  refine ⟨⟨_,loaded,rfl,preset⟩,fun terminal l settings draw => ?_,
    fun terminal l settings program turn step draw => ?_⟩
  · rw [carryOut,validateLoaded loaded]
  · rw [carryOut,carryOut,withTrackLoaded loaded,withTrack,preset]
    rfl

theorem savedNameless {track : Track} {name : String} (blank : ∀ c ∈ name.toList, Text.White c)
    {path : String} {d : Directory}
    (kept : d.read path = .ok (TrackFile.format.text (TrackFile.new name track))) :
    Nameless path d := by
  have refused := TrackFile.loadSaved kept
  rw [TrackFile.validateBlank blank] at refused
  refine ⟨refused,fun terminal l settings draw => ?_,
    fun terminal l settings program turn step draw => ?_⟩
  · exact validateRefused refused l draw
  · rw [carryOut]
    exact withTrackRefused refused none _ draw

/- Any invocation that exports a preset and ends well, and any directory in which the file that was
written is read as it was left. -/
theorem exportReadsBack {filter : Option String} {args : List String} {terminal : Terminal}
    {i : Invocation} (read : Invocation.read args = .ok i) {index : UInt64} {name out : String}
    (exports : i.task = some (.exportPreset index name out)) {draw : Draw} {d : Directory}
    (success : ((script filter args terminal).perform draw d).code = 0) :
    ((script filter args terminal).perform draw d).printed =
      [marked true ("Preset " ++ toString index.toNat ++ " written to " ++ out)] ∧
    ∀ d', d'.read out = ((script filter args terminal).perform draw d).directory.read out →
      ((∃ c ∈ name.toList, ¬ Text.White c) → StandsFor index name out d') ∧
      ((∀ c ∈ name.toList, Text.White c) → Nameless out d') := by
  have invoked : script filter args terminal = i.script (.ofSetting filter) terminal := by
    rw [script,read]
  rw [invoked] at success ⊢
  obtain ⟨before,settings,agrees⟩ := taskCarriedOut success
  rw [exports] at agrees
  obtain ⟨track,after,preset,saved,performed⟩ := exportSucceeds (agrees.code.symm.trans success)
  have ended : (carryOut terminal ⟨.ofSetting filter,i.sink⟩ settings
      ((some (Task.exportPreset index name out)).getD .interact)).perform draw before = _ := performed
  rw [agrees.printed,agrees.directory,ended]
  refine ⟨rfl,fun d' same => ?_⟩
  have kept := same.trans (DocumentFormat.saveRead saved)
  exact ⟨fun named => savedStandsFor preset named kept,fun blank => savedNameless blank kept⟩

def exporting (name : String) : List String := ["export","--preset","2","--name",name,"/tmp/o.json"]

def afterExport (name : String) : Directory :=
  ((script none (exporting name)).perform 0 .beside).directory

theorem quotedNameReadsBack :
    ((script none (exporting "\"\\\x07")).perform 0 .beside).code = 0 ∧
    StandsFor 2 "\"\\\x07" "/tmp/o.json" (afterExport "\"\\\x07") ∧
    ((script none (exporting " \t")).perform 0 .beside).code = 0 ∧
    Nameless "/tmp/o.json" (afterExport " \t") := by
  have quoted : Invocation.read (exporting "\"\\\x07") =
      .ok ⟨none,none,some (.exportPreset 2 "\"\\\x07" "/tmp/o.json")⟩ := by rfl
  have blank : Invocation.read (exporting " \t") =
      .ok ⟨none,none,some (.exportPreset 2 " \t" "/tmp/o.json")⟩ := by rfl
  have quotedDone : ((script none (exporting "\"\\\x07")).perform 0 .beside).code = 0 := by rfl
  have blankDone : ((script none (exporting " \t")).perform 0 .beside).code = 0 := by rfl
  refine ⟨quotedDone,?_,blankDone,?_⟩
  · exact ((exportReadsBack quoted rfl quotedDone).2 _ rfl).1
      ⟨'"',by decide,by simp [Text.White,Text.whiteSpace]⟩
  · exact ((exportReadsBack blank rfl blankDone).2 _ rfl).2
      (by simp [Text.White,Text.whiteSpace])

end CommandLine
end GridRobot
