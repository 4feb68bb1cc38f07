import GridRobot.Proofs.Keyboard
import GridRobot.Proofs.Restoring

/-! Quitting. Of all that a key press can do, quitting cannot be taken back, so it matters which
presses ask for it. The help being open or a run being active makes no difference; the mode does,
for one press. -/
namespace GridRobot.App

theorem performQuit (a : App) (d : Directory) (draw : Draw) (now : Nat) (action : Action) :
    (a.perform d draw now action).quit = true ↔ action = .quit := by
  unfold perform
  split <;> cases action <;> simp [performInHelp,performOnBoard]

theorem pressQuit (a : App) (d : Directory) (draw : Draw) (now : Nat) (key : Key)
    (held : Modifiers) :
    (a.press d draw now key held).quit = true ↔ a.mode.lookup key held = some .quit := by
  unfold press
  cases meaning : a.mode.lookup key held with
  | none => simp
  | some action => simp [performQuit]

theorem controlKept {m : Mode} {b : Binding} (bound : b ∈ m.bindings)
    (control : b.modifiers.ctrl = true) {held : Modifiers} (free : held.ctrl = false) :
    m.lookup b.key held = some b.action ↔ m.DropsControl b.key held := by
  have quits : ∀ m : Mode, ∀ b ∈ m.bindings, b.modifiers.ctrl = true →
      b.key = .char 'c' ∧ b.action = .quit := by
    rintro (_ | _) <;> decide +kernel
  obtain ⟨on,same⟩ := quits m b bound control
  rw [on,same,Mode.lookupQuit]
  constructor
  · rintro (⟨other,_⟩ | ⟨_,rfl⟩ | drops)
    · exact absurd other (by decide)
    · exact absurd free (by decide)
    · exact drops
  · exact fun drops => .inr (.inr drops)

theorem keysFollowBindings (m : Mode) (key : Key) (held : Modifiers) :
    (¬ m.DropsControl key held →
      ∀ result, m.lookup key held = result ↔ m.Means key held result) ∧
    (m.DropsControl key held → m.lookup key held = some .quit ∧ m.Means key held none) ∧
    (∀ b ∈ m.bindings, b.key = key → b.modifiers.ctrl = true → held.ctrl = false →
      (m.lookup key held = some b.action ↔ m.DropsControl key held)) ∧
    ∀ (a : App) (d : Directory) (draw : Draw) (now : Nat),
      (a.press d draw now key held).quit = true ↔
        key = .char 'q' ∧ (held = .none ∨ held = .shiftOnly) ∨
        key = .char 'c' ∧ held = .ctrlOnly ∨ a.mode.DropsControl key held := by
  refine ⟨fun sound result => ⟨?_,fun means => ?_⟩,Mode.dropsControl,?_,fun a d draw now => ?_⟩
  · rintro rfl
    exact Mode.lookupMeans sound
  · exact Mode.meansOnce (Mode.lookupMeans sound) means
  · rintro b bound rfl control free
    exact controlKept bound control free
  · exact (a.pressQuit d draw now key held).trans Mode.lookupQuit

/- Shift and `c` while the track is edited: no binding has just shift and none of the key is without
modifiers, and yet the application quits. -/
theorem shiftedControlQuits :
    Reachable editing ∧ Mode.configuring.DropsControl (.char 'c') .shiftOnly ∧
    Mode.configuring.Means (.char 'c') .shiftOnly none ∧
    (editing.press .empty 0 0 (.char 'c') .shiftOnly).quit = true := by
  have drops : Mode.configuring.DropsControl (.char 'c') .shiftOnly := ⟨rfl,rfl,rfl⟩
  obtain ⟨_,dropped,_,quits⟩ := keysFollowBindings .configuring (.char 'c') .shiftOnly
  exact ⟨editingReachable,drops,(dropped drops).2,(quits editing .empty 0 0).mpr (.inr (.inr drops))⟩

end GridRobot.App
