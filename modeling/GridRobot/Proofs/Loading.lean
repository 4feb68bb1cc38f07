import GridRobot.App
import GridRobot.Proofs.TrackFile

/-! Loading a track. Whatever is found where the custom track should be, a track is loaded: the one
of the file if the file can be read, parsed and validated, and a preset if not. Of a file that is no
use nothing is kept, and it is reported; of what is no file there is no report. -/
namespace GridRobot

namespace TrackFile

structure Stored (e : Entry) (f : TrackFile) : Prop where
  parsed : ∃ text, Directory.content e = .ok text ∧ reader.document text = .ok f
  valid : f.validate = .ok ()

inductive Useless (e : Entry) : Prop where
  | unread {fault : Directory.Fault} (content : Directory.content e = .error fault)
  | unparsed {text : String} {problem : Json.Located} (content : Directory.content e = .ok text)
      (other : reader.document text = .error problem)
  | refused {text : String} {f : TrackFile} {reason : Failure} (content : Directory.content e = .ok text)
      (parsed : reader.document text = .ok f) (invalid : f.validate = .error reason)

variable {d : Directory} {path : String} {place : List String} {e : Entry}

theorem loadStored {f : TrackFile} : load d path = .ok f ↔
    ∃ place e, d.find path = .ok (place,e) ∧ Stored e f := by
  constructor
  · intro loaded
    obtain ⟨valid,text,read,parsed⟩ := format.loadAccepted.mp loaded
    obtain ⟨place,e,found,content⟩ := Directory.foundOfRead read
    exact ⟨place,e,found,⟨text,content,parsed⟩,valid⟩
  · rintro ⟨place,e,found,⟨text,content,parsed⟩,valid⟩
    have read : d.read path = .ok text := (Directory.readFound found).trans content
    exact format.loadAccepted.mpr ⟨valid,text,read,parsed⟩

theorem loadUseless {error : DocumentError} (found : d.find path = .ok (place,e))
    (failed : load d path = .error error) : Useless e := by
  have loads := format.loads d path
  rw [Directory.readFound found,show format.load d path = .error error from failed] at loads
  generalize same : Directory.content e = content at loads
  cases loads with
  | unread => exact .unread same
  | unparsed other => exact .unparsed same other
  | refused parsed invalid => exact .refused same parsed invalid

end TrackFile

namespace TrackSource

def notLoaded (path : String) : Notice :=
  ⟨"Could not load " ++ path ++ " (using random preset).",false⟩

inductive Comes (d : Directory) (draw : Draw) : Option String → Loaded → Prop where
  | unset : Comes d draw none ⟨Track.presets.get draw,none⟩
  | absent {path fault} (missing : d.find path = .error fault) :
      Comes d draw (some path) ⟨Track.presets.get draw,none⟩
  | folder {path place} (found : d.find path = .ok (place,.folder)) :
      Comes d draw (some path) ⟨Track.presets.get draw,none⟩
  | useless {path place e} (found : d.find path = .ok (place,e)) (isFile : e ≠ .folder)
      (useless : TrackFile.Useless e) :
      Comes d draw (some path) ⟨Track.presets.get draw,some (notLoaded path)⟩
  | stored {path place e f} (found : d.find path = .ok (place,e)) (stored : TrackFile.Stored e f) :
      Comes d draw (some path) ⟨f.cells,none⟩

theorem replacedRandom (path : String) :
    replaced (file path).describe random.describe = notLoaded path := by
  have tail : " (using " ++ ("random preset" ++ ").") = " (using random preset)." := rfl
  unfold replaced notLoaded describe
  rw [String.append_assoc,String.append_assoc,tail]

theorem customFile {d : Directory} {path : String} (file : d.isFile path = true) (draw : Draw) :
    customOrPreset d draw (some path) = withFallback d draw (.file path) .random := by
  simp only [customOrPreset,Option.filter,file,if_true]

theorem customElse {d : Directory} {path : String} (other : d.isFile path = false) (draw : Draw) :
    customOrPreset d draw (some path) = ⟨Track.presets.get draw,none⟩ := by
  simp only [customOrPreset,Option.filter,other,Bool.false_eq_true,if_false]

theorem customComes (d : Directory) (draw : Draw) (custom : Option String) :
    Comes d draw custom (customOrPreset d draw custom) := by
  cases custom with
  | none => exact .unset
  | some path =>
    cases found : d.find path with
    | error fault =>
      rw [customElse (by simp [Directory.isFile,found])]
      exact .absent found
    | ok entry =>
      obtain ⟨place,e⟩ := entry
      by_cases isFile : e = .folder
      · subst isFile
        rw [customElse (by simp [Directory.isFile,found])]
        exact .folder found
      · rw [customFile ((Directory.isFileFound found).mpr isFile)]
        cases loaded : TrackFile.load d path with
        | ok f =>
          obtain ⟨place',e',found',stored⟩ := TrackFile.loadStored.mp loaded
          cases found.symm.trans found'
          simpa only [withFallback,Offer.orElse,offer,load,loaded] using Comes.stored found stored
        | error error =>
          have useless := TrackFile.loadUseless found loaded
          simpa only [withFallback,Offer.orElse,offer,load,loaded,replacedRandom] using
            Comes.useless found isFile useless

theorem noticeFails {d : Directory} {draw : Draw} {custom : Option String} {n : Notice}
    (noticed : (customOrPreset d draw custom).notice = some n) : n.success = false := by
  have comes := customComes d draw custom
  generalize customOrPreset d draw custom = loaded at comes noticed
  cases comes with
  | useless => cases noticed; rfl
  | unset | absent | folder | stored => contradiction

section Offers
variable {ε ε' : Type}

structure Backed (p : Offer ε) (f : Offer ε') (loaded : Loaded) : Prop where
  primary : ∀ t, loaded = ⟨t,none⟩ ↔ p.given = .ok t
  fallback : ∀ e t, p.given = .error e → f.given = .ok t → loaded = ⟨t,some (replaced p.name f.name)⟩
  neither : ∀ e e', p.given = .error e → f.given = .error e' →
    loaded = ⟨.empty,some (replaced p.name f.name)⟩

theorem orElseBacked (p : Offer ε) (f : Offer ε') : Backed p f (p.orElse f) := by
  obtain ⟨given,name⟩ := p
  obtain ⟨given',name'⟩ := f
  cases given with
  | ok t =>
    exact ⟨fun t' => by simp [Offer.orElse],fun _ _ failed => by contradiction,
      fun _ _ failed => by contradiction⟩
  | error e =>
    refine ⟨fun t => by simp [Offer.orElse],fun _ t _ given => ?_,fun _ _ _ failed => ?_⟩
    · cases given
      rfl
    · cases failed
      rfl

end Offers
end TrackSource

namespace App

def resetNotice (loaded : TrackSource.Loaded) : Notice := loaded.notice.getD ⟨"Board reset.",true⟩

/- A reset that is refused changes nothing; any other changes the session and the notice at once. -/
structure Resets (a : App) (d : Directory) (draw : Draw) (now : Nat) : Prop where
  refused : a.session.isRunning = true ∨ a.helpVisible = true →
    a.perform d draw now .resetBoard = ⟨a,d,false⟩
  done : a.session.isRunning = false → a.helpVisible = false →
    let loaded := TrackSource.customOrPreset d draw (some a.customTrack)
    let session := { a.session with
      track := loaded.track, program := .empty, robot := ⟨loaded.track.start,.east⟩ }
    a.perform d draw now .resetBoard = ⟨{ a with session, notice := some (resetNotice loaded) },d,false⟩
  success : ∀ custom, (resetNotice (TrackSource.customOrPreset d draw custom)).success = true ↔
    (TrackSource.customOrPreset d draw custom).notice = none

theorem resets (a : App) (d : Directory) (draw : Draw) (now : Nat) : a.Resets d draw now where
  refused := by
    intro refused
    unfold perform
    split
    · rfl
    · rename_i hidden
      have running := refused.resolve_right hidden
      simp only [performOnBoard,resetBoard,running,if_true]
  done := by
    intro resting hidden
    have shown : ¬ a.helpVisible = true := by simp [hidden]
    have running : ¬ a.session.isRunning = true := by simp [resting]
    unfold perform
    rw [if_neg shown,performOnBoard,resetBoard,if_neg running,dispatch,Session.dispatch,
      if_neg running]
    rfl
  success := by
    intro custom
    unfold resetNotice
    cases noticed : (TrackSource.customOrPreset d draw custom).notice with
    | none => simp
    | some n => simp [TrackSource.noticeFails noticed]

end App

theorem trackAlwaysLoaded :
    (∀ d draw custom, TrackSource.Comes d draw custom (TrackSource.customOrPreset d draw custom)) ∧
    (∀ d path f, TrackFile.load d path = .ok f ↔
      ∃ place e, d.find path = .ok (place,e) ∧ TrackFile.Stored e f) ∧
    (∀ (ε ε' : Type) (p : TrackSource.Offer ε) (f : TrackSource.Offer ε'),
      TrackSource.Backed p f (p.orElse f)) ∧
    (∀ d draw (p f : TrackSource),
      TrackSource.Backed (p.offer d draw) (f.offer d draw) (TrackSource.withFallback d draw p f)) ∧
    ∀ (a : App) d draw now, a.Resets d draw now :=
  ⟨TrackSource.customComes,fun _ _ _ => TrackFile.loadStored,
    fun _ _ => TrackSource.orElseBacked,fun _ _ _ _ => TrackSource.orElseBacked _ _,App.resets⟩

namespace App

def locked : Directory :=
  ⟨["home"],[(["tmp"],.folder),(["tmp","t.json"],.sealed "Permission denied (os error 13)")]⟩

theorem lockedTrackReplaced :
    ((withSession (.new .corner .standard) "/tmp/t.json").perform locked 1 0 .resetBoard).app.notice =
      some ⟨"Could not load /tmp/t.json (using random preset).",false⟩ ∧
    ((withSession (.new .corner .standard) "/tmp/t.json").perform locked 1 0
      .resetBoard).app.session.track = .hook := by
  have done := (trackAlwaysLoaded.2.2.2.2 (withSession (.new .corner .standard) "/tmp/t.json") locked
    1 0).done rfl rfl
  have comes := trackAlwaysLoaded.1 locked 1 (some "/tmp/t.json")
  have found : locked.find "/tmp/t.json" =
    .ok (["tmp","t.json"],.sealed "Permission denied (os error 13)") := rfl
  rw [done]
  change some (resetNotice (TrackSource.customOrPreset locked 1 (some "/tmp/t.json"))) = _ ∧
    (TrackSource.customOrPreset locked 1 (some "/tmp/t.json")).track = _
  generalize TrackSource.customOrPreset locked 1 (some "/tmp/t.json") = loaded at comes
  cases comes with
  | useless => exact ⟨rfl,rfl⟩
  | absent missing => cases missing.symm.trans found
  | folder found' => cases found'.symm.trans found
  | stored found' stored =>
    cases found'.symm.trans found
    obtain ⟨⟨text,content,_⟩,_⟩ := stored
    contradiction

end App

end GridRobot
