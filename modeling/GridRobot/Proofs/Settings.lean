import GridRobot.Proofs.Documents
import GridRobot.Proofs.Json.Writing
import GridRobot.Proofs.Storage

/-! Saving and loading settings. Settings come back from their file just if both pauses are within
the bound and the place of the track is given; whatever is loaded, from any file, is within it. -/
namespace GridRobot.Settings
open Json

structure Bounded (s : Settings) : Prop where
  turn : s.turnDelay.toNat ≤ 10000
  step : s.stepDelay.toNat ≤ 10000
  place : s.customTrack ≠ ""

/- What is wrong with settings, and what is said of it. Only the first thing counts. -/
inductive Violates (s : Settings) : String → Prop where
  | turn (long : 10000 < s.turnDelay.toNat) : Violates s "turn_delay_ms must be at most 10000 ms"
  | step (turn : s.turnDelay.toNat ≤ 10000) (long : 10000 < s.stepDelay.toNat) :
      Violates s "step_delay_ms must be at most 10000 ms"
  | place (turn : s.turnDelay.toNat ≤ 10000) (step : s.stepDelay.toNat ≤ 10000)
      (missing : s.customTrack = "") : Violates s "custom_track must not be empty"

theorem Violates.unbounded {s : Settings} {reason : String} (violates : s.Violates reason) :
    ¬ s.Bounded := by
  rintro ⟨turn,step,place⟩
  rcases violates with long | ⟨_,long⟩ | ⟨_,_,missing⟩
  · omega
  · omega
  · exact place missing

inductive Checked (s : Settings) : Except Failure Unit → Prop where
  | bounded (bounded : s.Bounded) : Checked s (.ok ())
  | violated {reason} (violates : s.Violates reason) : Checked s (.error (.settings reason))

theorem checked (s : Settings) : s.Checked s.validate := by
  unfold validate
  split
  · rename_i long
    exact .violated (.turn long)
  · rename_i turn
    have turn := Nat.le_of_not_lt turn
    split
    · rename_i long
      exact .violated (.step turn long)
    · rename_i step
      have step := Nat.le_of_not_lt step
      split
      · rename_i missing
        exact .violated (.place turn step (String.isEmpty_iff.mp missing))
      · rename_i given
        exact .bounded ⟨turn,step,fun missing => given (String.isEmpty_iff.mpr missing)⟩

theorem valueObject (s : Settings) :
    ∃ o : ObjectText, format.text s = o.text ∧ o.members.map (·.name) = memberNames ∧
      ∀ m ∈ o.members, s.Fits m.name m.value := by
  refine objectOfDocument (spreadDocument s.value) fun m inside cs tells => ?_
  simp only [List.mem_cons,List.not_mem_nil,or_false] at inside
  rcases inside with rfl | rfl | rfl
  · exact tells.natural
  · exact tells.natural
  · exact tells.textOf

theorem readText (s : Settings) : reader.document (format.text s) = .ok s := by
  obtain ⟨o,same,names,fits⟩ := s.valueObject
  obtain ⟨suits,all⟩ := membersKnown names fits
  have read := (shapes s).object o suits (by rw [all]; decide)
  rw [same,read,all]
  rfl

structure Saved (s : Settings) (d : Directory) (path : String) : Prop where
  document : ∃ o : ObjectText, d.read path = .ok o.text ∧
    o.members.map (·.name) = memberNames ∧ ∀ m ∈ o.members, s.Fits m.name m.value
  loads : load d path = .ok s ↔ s.Bounded
  refuses : ¬ s.Bounded →
    ∃ reason, s.Violates reason ∧ load d path = .error (.invalid (.settings reason))

structure Loaded (g : Settings) (d : Directory) (path : String) : Prop where
  document : ∃ text, d.read path = .ok text ∧ reader.document text = .ok g
  bounded : g.Bounded
  paused : ∀ i, g.timing.delayFor i ≤ 10000
  again : ∀ d₁ d₂ path', g.save d₁ path' = .ok d₂ → load d₂ path' = .ok g

theorem savedKnown {s : Settings} {d d' : Directory} {path : String}
    (saved : s.save d path = .ok d') : s.Saved d' path := by
  have kept := DocumentFormat.saveRead saved
  have loaded : load d' path = _ := format.loadKept s.readText kept
  have document : ∃ o : ObjectText, d'.read path = .ok o.text ∧
      o.members.map (·.name) = memberNames ∧ ∀ m ∈ o.members, s.Fits m.name m.value := by
    obtain ⟨o,same,members⟩ := s.valueObject
    exact ⟨o,same ▸ kept,members⟩
  have outcome : s.Checked (format.validate s) := s.checked
  generalize format.validate s = result at loaded outcome
  cases outcome with
  | bounded bounded => exact ⟨document,by simp [loaded,bounded],absurd bounded⟩
  | violated violates =>
    exact ⟨document,by simp [loaded,violates.unbounded],fun _ => ⟨_,violates,loaded⟩⟩

theorem boundedOfValid {s : Settings} (valid : s.validate = .ok ()) : s.Bounded := by
  have outcome := s.checked
  rw [valid] at outcome
  cases outcome with
  | bounded bounded => exact bounded

theorem loadedKnown {d : Directory} {path : String} {g : Settings}
    (loaded : load d path = .ok g) : g.Loaded d path := by
  obtain ⟨valid,document⟩ := format.loadAccepted.mp loaded
  have bounded := boundedOfValid valid
  exact {
    document, bounded
    paused := by
      intro i
      cases i with
      | advance => exact bounded.step
      | turnLeft | turnRight | loopStart | loopEnd => exact bounded.turn
    again := fun _ _ _ saved => (savedKnown saved).loads.mpr bounded }

theorem survivesIffBounded :
    (∀ (s : Settings) (d d' : Directory) (path : String),
      s.save d path = .ok d' → s.Saved d' path) ∧
    ∀ (d : Directory) (path : String) (g : Settings), load d path = .ok g → g.Loaded d path :=
  ⟨fun _ _ _ _ => savedKnown,fun _ _ _ => loadedKnown⟩

/- Both pauses are as long as they may be. -/
def slowest : Settings := ⟨10000,10000,"é\"\\"⟩

theorem slowestSurvives : ∃ d, slowest.save .beside "/tmp/s.json" = .ok d ∧
    load d "/tmp/s.json" = .ok slowest ∧ ∀ i, slowest.timing.delayFor i ≤ 10000 := by
  obtain ⟨d,saved⟩ : ∃ d, slowest.save .beside "/tmp/s.json" = .ok d := ⟨_,rfl⟩
  have bounded : slowest.Bounded := ⟨Nat.le_refl _,Nat.le_refl _,by decide⟩
  have loaded := (survivesIffBounded.1 _ _ _ _ saved).loads.mpr bounded
  exact ⟨d,saved,loaded,(survivesIffBounded.2 _ _ _ loaded).paused⟩

end GridRobot.Settings
