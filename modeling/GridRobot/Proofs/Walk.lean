import GridRobot.Robot

/-! Walking by the letter. A program is read directly: its instructions are followed one
after another, and the reading stops in front of the first advance that has no track
ahead of it. Nothing of a run or of an engine is needed to say this. -/
namespace GridRobot.Robot

def follow (r : Robot) : Instruction → Robot
  | .turnLeft => { r with heading := r.heading.turnLeft }
  | .turnRight => { r with heading := r.heading.turnRight }
  | .advance => { r with position := (r.position.step? r.heading).getD r.position }
  | .loopStart | .loopEnd => r

def followAll (r : Robot) (instructions : List Instruction) : Robot := instructions.foldl follow r

def Blocked (t : Track) (r : Robot) (i : Instruction) : Prop :=
  i = .advance ∧ ∀ cell, r.position.step? r.heading = some cell → t.traversable cell = false

/- `stop` is the least place whose instruction is blocked once all before it have been
followed, or the length if there is no such place. -/
structure StopsAt (t : Track) (r : Robot) (sequence : List Instruction) (stop : Nat) : Prop where
  within : stop ≤ sequence.length
  free : ∀ n i, n < stop → sequence[n]? = some i → ¬ Blocked t (r.followAll (sequence.take n)) i
  blocked : ∀ i, sequence[stop]? = some i → Blocked t (r.followAll (sequence.take stop)) i

theorem followAllSucc (r : Robot) {sequence : List Instruction} {n : Nat} {i : Instruction}
    (found : sequence[n]? = some i) :
    r.followAll (sequence.take (n + 1)) = (r.followAll (sequence.take n)).follow i := by
  rw [followAll,List.take_add_one,found]
  simp [followAll]

theorem obeyBlocked {t : Track} {r : Robot} {i : Instruction} (blocked : Blocked t r i) :
    r.obey? t i = none := by
  obtain ⟨rfl,noTrack⟩ := blocked
  cases ahead : r.position.step? r.heading with
  | none => simp [obey?,ahead]
  | some cell => simp [obey?,ahead,noTrack cell ahead]

theorem obeyFree {t : Track} {r : Robot} {i : Instruction} (free : ¬ Blocked t r i) :
    r.obey? t i = some (r.follow i) := by
  cases i with
  | turnLeft | turnRight | loopStart | loopEnd => rfl
  | advance =>
    have ahead : ∃ cell, r.position.step? r.heading = some cell ∧ t.traversable cell = true := by
      simpa [Blocked] using free
    obtain ⟨cell,found,track⟩ := ahead
    simp [obey?,follow,found,track]

theorem obeyRefused {t : Track} {r : Robot} {i : Instruction} (refused : r.obey? t i = none) :
    Blocked t r i := by
  refine Classical.byContradiction fun free => ?_
  rw [obeyFree free] at refused
  contradiction

theorem obeyTraversable {t : Track} {r r' : Robot} {i : Instruction}
    (on : t.traversable r.position = true) (obeyed : r.obey? t i = some r') :
    t.traversable r'.position = true := by
  cases i with
  | advance =>
    obtain ⟨cell,ahead,rfl⟩ := Option.map_eq_some_iff.mp obeyed
    exact (Option.filter_eq_some_iff.mp ahead).2
  | turnLeft | turnRight | loopStart | loopEnd => cases obeyed; exact on

theorem stopsSomewhere (t : Track) (r : Robot) (sequence : List Instruction) :
    ∃ stop, StopsAt t r sequence stop := by
  induction sequence generalizing r with
  | nil => exact ⟨0,⟨by simp,by simp,by simp⟩⟩
  | cons i rest ih =>
    by_cases now : Blocked t r i
    · refine ⟨0,⟨by simp,by simp,?_⟩⟩
      intro j first
      cases Option.some.inj first
      exact now
    · obtain ⟨stop,later⟩ := ih (r.follow i)
      refine ⟨stop + 1,⟨by simpa using later.within,?_,?_⟩⟩
      · intro n j before found
        cases n with
        | zero => cases Option.some.inj found; exact now
        | succ n => exact later.free n j (by omega) found
      · exact later.blocked

end GridRobot.Robot
