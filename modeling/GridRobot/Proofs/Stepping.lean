import GridRobot.Proofs.Overflow
import GridRobot.Proofs.Position
import GridRobot.Proofs.Session

/-! Steps as geometry. A step is the sum of a place and an offset in integers, and it is taken just
if the sum lies in the grid. Positions next to the grid can step into it, but nothing steps out: the
way back is there only from a step that began inside. No sum or difference on the way wraps round
unless a coordinate is the largest word, and the robot of a session is never that far out. -/
namespace GridRobot

def Grid.Holds (place : Int × Int) : Prop :=
  (0 ≤ place.1 ∧ place.1 < Grid.rows) ∧ 0 ≤ place.2 ∧ place.2 < Grid.cols

namespace Heading

theorem turnedRound (h : Heading) : h.turnLeft.turnLeft = h.turnRight.turnRight := by
  cases h <;> rfl

theorem offsetRound (h : Heading) : h.turnRight.turnRight.offset = -h.offset := by
  cases h <;> rfl

end Heading

namespace Position

theorem sameCoordinates {p q : Position} : p.coordinates = q.coordinates ↔ p = q := by
  constructor
  · intro same
    obtain ⟨row,col⟩ := Prod.ext_iff.mp same
    cases p
    cases q
    simp_all [coordinates,UInt64.toNat_inj]
  · exact congrArg coordinates

theorem coordinatesHeld {p : Position} : Grid.Holds p.coordinates ↔ p.inGrid = true := by
  simp [Grid.Holds,coordinates,insideIff]

def checkedAhead (p : Position) : Heading → Except Overflow (Option (Nat × Nat))
  | .north =>
    if p.row = 0 then .ok none
    else do return some (← Overflow.minus p.row.toNat 1,p.col.toNat)
  | .east => do return some (p.row.toNat,← Overflow.hold UInt64.size (p.col.toNat + 1))
  | .south => do return some (← Overflow.hold UInt64.size (p.row.toNat + 1),p.col.toNat)
  | .west =>
    if p.col = 0 then .ok none
    else do return some (p.row.toNat,← Overflow.minus p.col.toNat 1)

section Steps
variable {p n : Position} {h : Heading}

theorem checkedAheadOk (room : p.HasRoom) (h : Heading) : p.checkedAhead h =
    .ok ((p.ahead? h).map fun q => (q.row.toNat,q.col.toNat)) := by
  cases h with
  | east =>
    rw [checkedAhead,Overflow.holdOk room.2,← nextWord room.2]
    rfl
  | south =>
    rw [checkedAhead,Overflow.holdOk room.1,← nextWord room.1]
    rfl
  | north =>
    by_cases edge : p.row = 0
    · simp only [checkedAhead,ahead?,if_pos edge,Option.map_none]
    · simp only [checkedAhead,ahead?,if_neg edge,Option.map_some,lastWord edge,
        Overflow.minusOk (someWord edge)]
      rfl
  | west =>
    by_cases edge : p.col = 0
    · simp only [checkedAhead,ahead?,if_pos edge,Option.map_none]
    · simp only [checkedAhead,ahead?,if_neg edge,Option.map_some,lastWord edge,
        Overflow.minusOk (someWord edge)]
      rfl

theorem aheadHeld (held : Grid.Holds (p.coordinates + h.offset)) : ∃ q, p.ahead? h = some q := by
  obtain ⟨⟨above,_⟩,left,_⟩ := held
  cases h with
  | east | south => exact ⟨_,rfl⟩
  | north =>
    have below : p.row ≠ 0 := by
      rintro edge
      simp [coordinates,Heading.offset,edge] at above
    exact ⟨_,if_neg below⟩
  | west =>
    have beside : p.col ≠ 0 := by
      rintro edge
      simp [coordinates,Heading.offset,edge] at left
    exact ⟨_,if_neg beside⟩

theorem stepIff (room : p.HasRoom) : p.step? h = some n ↔
    Grid.Holds (p.coordinates + h.offset) ∧ n.coordinates = p.coordinates + h.offset := by
  rw [step?,Option.filter_eq_some_iff]
  constructor
  · rintro ⟨ahead,inside⟩
    have place := aheadCoordinates room ahead
    exact ⟨place ▸ coordinatesHeld.mpr inside,place⟩
  · rintro ⟨held,place⟩
    obtain ⟨q,ahead⟩ := aheadHeld held
    have same : q = n := sameCoordinates.mp ((aheadCoordinates room ahead).trans place.symm)
    exact ⟨same ▸ ahead,coordinatesHeld.mp (place ▸ held)⟩

theorem stepBack (room : p.HasRoom) (step : p.step? h = some n) :
    n.step? h.turnRight.turnRight = if p.inGrid then some p else none := by
  obtain ⟨held,place⟩ := (stepIff room).mp step
  have inside : n.inGrid = true := coordinatesHeld.mp (place ▸ held)
  have origin : n.coordinates + h.turnRight.turnRight.offset = p.coordinates := by
    rw [place,Heading.offsetRound,add_assoc,add_neg_cancel,add_zero]
  refine Option.ext fun q => ?_
  rw [stepIff (insideRoom inside),origin,coordinatesHeld,sameCoordinates]
  cases p.inGrid <;> simp [eq_comm]

end Steps

structure StepsExactly (p : Position) (h : Heading) : Prop where
  checked : p.checkedAhead h = .ok ((p.ahead? h).map fun q => (q.row.toNat,q.col.toNat))
  lands : ∀ n, p.step? h = some n ↔
    Grid.Holds (p.coordinates + h.offset) ∧ n.coordinates = p.coordinates + h.offset
  back : ∀ n, p.step? h = some n →
    n.step? h.turnRight.turnRight = (if p.inGrid then some p else none) ∧
    n.step? h.turnLeft.turnLeft = if p.inGrid then some p else none

theorem stepExact {p : Position} (room : p.HasRoom) (h : Heading) : p.StepsExactly h where
  checked := checkedAheadOk room h
  lands _ := stepIff room
  back _ step := ⟨stepBack room step,h.turnedRound ▸ stepBack room step⟩

end Position

/- Wherever both coordinates can grow by one; in the grid that is everywhere, and so it is for the
robot of every session. -/
theorem Position.stepsAreGeometry :
    (∀ (p : Position) h, p.HasRoom → p.StepsExactly h) ∧
    (∀ (p : Position) h, p.inGrid = true → p.StepsExactly h) ∧
    ∀ track timing operations h,
      ((Session.new track timing).operateAll operations).robot.position.StepsExactly h := by
  refine ⟨fun p h room => stepExact room h,fun p h inside => stepExact (insideRoom inside) h,?_⟩
  intro track timing operations h
  have sound := Session.soundOperateAll (Session.soundNew track timing) operations
  exact stepExact (insideRoom (Session.placedInGrid sound.placed)) h

/- From below the grid a step leads into it, and from there none leads back. -/
theorem Position.steppedInFromBelow : (⟨4,2⟩ : Position).HasRoom ∧
    (⟨4,2⟩ : Position).StepsExactly .north ∧ (⟨4,2⟩ : Position).step? .north = some ⟨3,2⟩ ∧
    (⟨3,2⟩ : Position).step? .south = none :=
  ⟨by decide,stepsAreGeometry.1 ⟨4,2⟩ .north (by decide),by decide,
    ((stepsAreGeometry.1 ⟨4,2⟩ .north (by decide)).back ⟨3,2⟩ (by decide)).1⟩

end GridRobot
