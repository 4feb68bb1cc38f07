import GridRobot.Proofs.Loading
import GridRobot.Proofs.Session

/-! Saving the track and resetting the board. What is saved stays in its file whatever the
application does afterwards, since only another save writes; so a reset brings back the track as
it was saved. -/
namespace GridRobot

theorem TrackSource.customSaved {t : Track} {d : Directory} {path : String}
    (kept : d.read path = .ok (TrackFile.format.text (TrackFile.new "custom" t))) (draw : Draw) :
    customOrPreset d draw (some path) = ⟨t,none⟩ := by
  have valid : (TrackFile.new "custom" t).validate = .ok () := TrackFile.validateOk.mpr
    ⟨rfl,rfl,'c',by simp [TrackFile.new],by simp [Text.White,Text.whiteSpace]⟩
  have loaded := TrackFile.loadSaved kept
  rw [valid] at loaded
  rw [customFile (Directory.readFile kept)]
  simp only [withFallback,offer,Offer.orElse,load,loaded]
  rfl

namespace App

inductive Reachable : App → Prop where
  | new (settings : Settings) (d : Directory) (draw : Draw) : Reachable (.new settings d draw)
  | withSession (track : Track) (timing : Timing) (operations : List Session.Operation)
      (custom : String) :
      Reachable (.withSession ((Session.new track timing).operateAll operations) custom)
  | perform {a : App} (reached : Reachable a) (d : Directory) (draw : Draw) (now : Nat)
      (action : Action) : Reachable (a.perform d draw now action).app
  | press {a : App} (reached : Reachable a) (d : Directory) (draw : Draw) (now : Nat) (key : Key)
      (held : Modifiers) : Reachable (a.press d draw now key held).app
  | advance {a : App} (reached : Reachable a) (now : Nat) : Reachable (a.advance now)

theorem sessionDispatch (a : App) (now : Nat) (c : Command) :
    (a.dispatch now c).session = (a.session.dispatch c).2 :=
  sessionSettle a now (a.session.dispatch c)

theorem settleFrame (a : App) (now : Nat) (changed : List Effect × Session) :
    ∃ notice next, a.settle now changed =
      { a with session := changed.2, notice, nextStepAt := next } := by
  have kept (effects : List Effect) (b : App) : ∃ notice next,
      effects.foldl (carryOut now) b = { b with notice, nextStepAt := next } := by
    induction effects generalizing b with
    | nil => exact ⟨_,_,rfl⟩
    | cons e rest ih =>
      obtain ⟨notice,next,same⟩ := ih (carryOut now b e)
      rw [List.foldl_cons,same]
      cases e <;> exact ⟨_,_,rfl⟩
  obtain ⟨notice,next,same⟩ := kept changed.1 { a with session := changed.2 }
  exact ⟨notice,next,same⟩

theorem customTrackSettle (a : App) (now : Nat) (changed : List Effect × Session) :
    (a.settle now changed).customTrack = a.customTrack := by
  obtain ⟨_,_,same⟩ := a.settleFrame now changed
  rw [same]

theorem customTrackDispatch (a : App) (now : Nat) (c : Command) :
    (a.dispatch now c).customTrack = a.customTrack := a.customTrackSettle now _

structure Performed (a : App) (d : Directory) (action : Action) (o : Outcome) : Prop where
  session : o.app.session = a.session ∨ ∃ c, o.app.session = (a.session.dispatch c).2
  place : o.app.customTrack = a.customTrack
  directory : ¬ (a.helpVisible = false ∧ action = .saveTrack) → o.directory = d

theorem performed (a : App) (d : Directory) (draw : Draw) (now : Nat) (action : Action) :
    Performed a d action (a.perform d draw now action) := by
  have dispatched (c : Command) : Performed a d action ⟨a.dispatch now c,d,false⟩ :=
    ⟨.inr ⟨c,a.sessionDispatch now c⟩,a.customTrackDispatch now c,fun _ => rfl⟩
  unfold perform
  split
  · cases action <;> exact ⟨.inl rfl,rfl,fun _ => rfl⟩
  · rename_i shown
    have hidden : a.helpVisible = false := by simpa using shown
    cases action with
    | cursorUp | cursorDown | cursorLeft | cursorRight | help | dismiss | quit =>
      exact ⟨.inl rfl,rfl,fun _ => rfl⟩
    | turnLeft | turnRight | forward | loopStart | loopEnd | clearProgram | toggleCell =>
      exact dispatched _
    | run =>
      obtain ⟨session,place,_⟩ := dispatched .run
      simp only [performOnBoard,requestRun]
      split <;> exact ⟨session,place,fun _ => rfl⟩
    | toggleConfig =>
      obtain ⟨session,place,_⟩ := dispatched .toggleConfigMode
      simp only [performOnBoard,toggleConfig]
      split <;> exact ⟨session,place,fun _ => rfl⟩
    | resetBoard =>
      simp only [performOnBoard,resetBoard]
      split
      · exact ⟨.inl rfl,rfl,fun _ => rfl⟩
      · exact dispatched _
    | randomTrack =>
      simp only [performOnBoard,randomTrack]
      split
      · exact ⟨.inl rfl,rfl,fun _ => rfl⟩
      · exact dispatched _
    | saveTrack =>
      simp only [performOnBoard,saveTrack]
      split
      · exact ⟨.inl rfl,rfl,fun _ => rfl⟩
      · split <;> exact ⟨.inl rfl,rfl,fun other => absurd ⟨hidden,rfl⟩ other⟩

theorem performSound {a : App} (sound : a.session.Sound) (d : Directory) (draw : Draw) (now : Nat)
    (action : Action) : (a.perform d draw now action).app.session.Sound := by
  rcases (a.performed d draw now action).session with same | ⟨c,changed⟩
  · rw [same]
    exact sound
  · rw [changed]
    exact Session.soundDispatch sound c

theorem advanceSound {a : App} (sound : a.session.Sound) (now : Nat) :
    (a.advance now).session.Sound := by
  cases running : a.session.isRunning with
  | false => simpa [advance,running] using sound
  | true =>
    cases due : a.isDue now with
    | false => simpa [advance,running,due] using sound
    | true =>
      rw [sessionAdvanceDue running due]
      exact Session.soundNext sound

theorem soundReachable {a : App} (reachable : Reachable a) : a.session.Sound := by
  induction reachable with
  | new settings d draw => exact Session.soundNew _ _
  | withSession track timing operations custom =>
    exact Session.soundOperateAll (Session.soundNew track timing) operations
  | perform _ d draw now action sound => exact performSound sound d draw now action
  | press _ d draw now key held sound =>
    unfold press
    split
    · exact performSound sound d draw now _
    · exact sound
  | advance _ now sound => exact advanceSound sound now

theorem pressOnBoard {a : App} (hidden : a.helpVisible = false) {key : Key} {held : Modifiers}
    {action : Action} (meaning : a.mode.lookup key held = some action) (d : Directory) (draw : Draw)
    (now : Nat) : a.press d draw now key held = a.performOnBoard d draw now action := by
  simp only [press,meaning,perform,hidden,Bool.false_eq_true,if_false]

theorem configuringRests {a : App} (reachable : Reachable a) (configuring : a.mode = .configuring) :
    a.session.isRunning = false := by
  cases running : a.session.isRunning with
  | false => rfl
  | true =>
    have plain := (soundReachable reachable).plain running
    simp [mode,plain] at configuring

end App

structure World where
  app : App
  directory : Directory

/- What may happen: a key press, the passing of time, or a change that somebody else makes to the
directory. -/
inductive Happening where
  | press (key : Key) (held : Modifiers) (draw : Draw) (now : Nat)
  | advance (now : Nat)
  | elsewhere (d : Directory)

namespace World

def pressed (w : World) (draw : Draw) (now : Nat) (key : Key) (held : Modifiers) : World :=
  let after := w.app.press w.directory draw now key held
  ⟨after.app,after.directory⟩

def after (w : World) : Happening → World
  | .press key held draw now => w.pressed draw now key held
  | .advance now => ⟨w.app.advance now,w.directory⟩
  | .elsewhere d => ⟨w.app,d⟩

def afterAll (w : World) (hs : List Happening) : World := hs.foldl after w

/- No key press saves the track, and nobody else changes its file. -/
def Spares (w : World) : Happening → Prop
  | .press key held _ _ => ¬ (w.app.helpVisible = false ∧ w.app.mode.lookup key held = some .saveTrack)
  | .advance _ => True
  | .elsewhere d => d.read w.app.customTrack = w.directory.read w.app.customTrack

def SparesAll : World → List Happening → Prop
  | _, [] => True
  | w, h :: rest => w.Spares h ∧ SparesAll (w.after h) rest

def content (w : World) : Except Directory.Fault String := w.directory.read w.app.customTrack

theorem spared {w : World} {h : Happening} (spares : w.Spares h) :
    (w.after h).app.customTrack = w.app.customTrack ∧ (w.after h).content = w.content := by
  cases h with
  | advance now =>
    have same : (w.app.advance now).customTrack = w.app.customTrack := by
      unfold App.advance
      split
      · rfl
      · split
        · rfl
        · dsimp only
          split <;> exact w.app.customTrackSettle now _
    exact ⟨same,congrArg w.directory.read same⟩
  | elsewhere d => exact ⟨rfl,spares⟩
  | press key held draw now =>
    simp only [content,after,pressed,App.press]
    cases meaning : w.app.mode.lookup key held with
    | none => exact ⟨rfl,rfl⟩
    | some action =>
      have after := w.app.performed w.directory draw now action
      have other : ¬ (w.app.helpVisible = false ∧ action = .saveTrack) := by
        rintro ⟨hidden,rfl⟩
        exact spares ⟨hidden,meaning⟩
      exact ⟨after.place,by rw [after.place,after.directory other]⟩

theorem sparedAll {w : World} {hs : List Happening} (spares : w.SparesAll hs) :
    (w.afterAll hs).app.customTrack = w.app.customTrack ∧ (w.afterAll hs).content = w.content := by
  induction hs generalizing w with
  | nil => exact ⟨rfl,rfl⟩
  | cons h rest ih =>
    obtain ⟨track,content⟩ := ih spares.2
    obtain ⟨track',content'⟩ := spared spares.1
    exact ⟨track.trans track',content.trans content'⟩

structure Restores (w : World) (t : Track) (path : String) : Prop where
  reset : w.app.mode = .programming → w.app.session.isRunning = false → w.app.helpVisible = false →
    ∀ draw now key held, Mode.programming.lookup key held = some .resetBoard →
      let a := (w.pressed draw now key held).app
      a.session.track = t ∧ a.session.program = .empty ∧ a.session.robot = .parkedOn t.start ∧
        a.notice = some ⟨"Board reset.",true⟩
  start : ∀ (settings : Settings) (draw : Draw), settings.customTrack = path →
    (App.new settings w.directory draw).session.track = t ∧
      (App.new settings w.directory draw).notice = none

theorem restoresContent {w : World} {t : Track}
    (kept : w.content = .ok (TrackFile.format.text (TrackFile.new "custom" t))) :
    w.Restores t w.app.customTrack where
  reset := by
    intro programming resting hidden draw now key held resets
    rw [← programming] at resets
    have reset := (w.app.resets w.directory draw now).done resting hidden
    rw [TrackSource.customSaved kept draw] at reset
    have performed : (w.pressed draw now key held).app =
        (w.app.perform w.directory draw now .resetBoard).app := by
      simp only [pressed,App.press,resets]
    rw [performed,reset]
    exact ⟨rfl,rfl,rfl,rfl⟩
  start := by
    intro settings draw same
    have loaded := TrackSource.customSaved kept draw
    rw [← same] at loaded
    simp only [App.new,loaded]
    exact ⟨rfl,trivial⟩

end World

namespace App

theorem savedContent {a : App} (resting : a.session.isRunning = false)
    (hidden : a.helpVisible = false) {key : Key} {held : Modifiers}
    (saves : a.mode.lookup key held = some .saveTrack) {d : Directory} {draw : Draw} {now : Nat}
    {n : Notice} (reported : (World.pressed ⟨a,d⟩ draw now key held).app.notice = some n)
    (success : n.success = true) :
    (World.pressed ⟨a,d⟩ draw now key held).content =
      .ok (TrackFile.format.text (TrackFile.new "custom" a.session.track)) := by
  simp only [World.content,World.pressed,pressOnBoard hidden saves,performOnBoard,saveTrack,resting,
    Bool.false_eq_true,if_false] at reported ⊢
  cases saved : (TrackFile.new "custom" a.session.track).save d a.customTrack with
  | ok d' =>
    rw [saved] at reported
    exact DocumentFormat.saveRead saved
  | error e =>
    rw [saved] at reported
    cases reported
    contradiction

/- Between the save and the reset other tracks may be loaded, cells toggled and programs run. -/
theorem savedTrackReturns {a : App} (reachable : Reachable a) (configuring : a.mode = .configuring)
    (hidden : a.helpVisible = false) {key : Key} {held : Modifiers}
    (saves : Mode.configuring.lookup key held = some .saveTrack) {d : Directory} {draw : Draw}
    {now : Nat} {n : Notice} (reported : (World.pressed ⟨a,d⟩ draw now key held).app.notice = some n)
    (success : n.success = true) {hs : List Happening}
    (spares : (World.pressed ⟨a,d⟩ draw now key held).SparesAll hs) :
    ((World.pressed ⟨a,d⟩ draw now key held).afterAll hs).Restores a.session.track a.customTrack := by
  rw [← configuring] at saves
  have content := savedContent (configuringRests reachable configuring) hidden saves reported success
  obtain ⟨place,kept⟩ := World.sparedAll spares
  have same : (World.pressed ⟨a,d⟩ draw now key held).app.customTrack = a.customTrack := by
    simp only [World.pressed,press,saves]
    exact (a.performed d draw now .saveTrack).place
  rw [← same,← place]
  exact World.restoresContent (kept.trans content)

def editing : App :=
  ((withSession (.new .corner .standard) "/tmp/saved.json").press .empty 0 0 (.char 'e') .none).app

theorem editingReachable : Reachable editing :=
  .press (.withSession .corner .standard [] "/tmp/saved.json") .empty 0 0 (.char 'e') .none

theorem savedCornerReturns :
    Reachable editing ∧
    (World.pressed ⟨editing,.beside⟩ 0 1 (.char 's') .none).app.notice =
      some (.saved "/tmp/saved.json") ∧
    ((World.pressed ⟨editing,.beside⟩ 0 1 (.char 's') .none).afterAll
      [.press (.char 'e') .none 0 2,.press (.char 'r') .none 2 3,.advance 4]).Restores .corner
        "/tmp/saved.json" := by
  have edits : some Action.toggleConfig ≠ some .saveTrack := by decide
  have draws : some Action.randomTrack ≠ some .saveTrack := by decide
  have reported : (World.pressed ⟨editing,.beside⟩ 0 1 (.char 's') .none).app.notice =
    some (.saved "/tmp/saved.json") := rfl
  exact ⟨editingReachable,reported,savedTrackReturns editingReachable rfl rfl rfl reported rfl
    ⟨fun saves => edits saves.2,fun saves => draws saves.2,trivial,trivial⟩⟩

end App
end GridRobot
