import GridRobot.Position
import Mathlib.Algebra.Group.Prod
import Mathlib.Algebra.Ring.Int.Defs

/-! Positions as pairs of integers. The coordinates of a position are unsigned words, but as long as
they are not the largest ones a step adds to them what it should, also where that is less. -/
namespace GridRobot

def Heading.offset : Heading → Int × Int
  | .north => (-1,0)
  | .east => (0,1)
  | .south => (1,0)
  | .west => (0,-1)

namespace Position

def coordinates (p : Position) : Int × Int := (p.row.toNat,p.col.toNat)

def HasRoom (p : Position) : Prop :=
  p.row.toNat + 1 < UInt64.size ∧ p.col.toNat + 1 < UInt64.size
instance (p : Position) : Decidable p.HasRoom := by unfold HasRoom; infer_instance

theorem insideIff {p : Position} :
    p.inGrid = true ↔ p.row.toNat < Grid.rows ∧ p.col.toNat < Grid.cols := by
  rw [inGrid,Bool.and_eq_true,decide_eq_true_eq,decide_eq_true_eq]

theorem insideRoom {p : Position} (inside : p.inGrid = true) : p.HasRoom := by
  obtain ⟨row,col⟩ := insideIff.mp inside
  have room : Grid.rows + Grid.cols < UInt64.size := by decide
  exact ⟨by omega,by omega⟩

theorem nextWord {n : UInt64} (room : n.toNat + 1 < UInt64.size) : (n + 1).toNat = n.toNat + 1 := by
  rw [UInt64.toNat_add,UInt64.toNat_one,Nat.mod_eq_of_lt room]

theorem someWord {n : UInt64} (some : n ≠ 0) : 1 ≤ n.toNat :=
  Nat.one_le_iff_ne_zero.mpr fun zero => some (UInt64.toNat_inj.mp zero)

theorem lastWord {n : UInt64} (some : n ≠ 0) : (n - 1).toNat = n.toNat - 1 := by
  have enough : (1 : UInt64) ≤ n := UInt64.le_iff_toNat_le.mpr (someWord some)
  rw [UInt64.toNat_sub_of_le _ _ enough,UInt64.toNat_one]

theorem aheadCoordinates {p q : Position} {h : Heading} (room : p.HasRoom)
    (ahead : p.ahead? h = some q) : q.coordinates = p.coordinates + h.offset := by
  have up {n : UInt64} (room : n.toNat + 1 < UInt64.size) : ((n + 1).toNat : Int) = n.toNat + 1 :=
    congrArg Int.ofNat (nextWord room)
  have down {n : UInt64} (some : n ≠ 0) : ((n - 1).toNat : Int) = n.toNat - 1 := by
    have one := someWord some
    rw [lastWord some]
    omega
  cases h with
  | east =>
    cases Option.some.inj ahead
    exact Prod.ext (Int.add_zero _).symm (up room.2)
  | south =>
    cases Option.some.inj ahead
    exact Prod.ext (up room.1) (Int.add_zero _).symm
  | north =>
    obtain ⟨below,rfl⟩ : p.row ≠ 0 ∧ ⟨p.row - 1,p.col⟩ = q := by simpa [ahead?] using ahead
    exact Prod.ext (down below) (Int.add_zero _).symm
  | west =>
    obtain ⟨beside,rfl⟩ : p.col ≠ 0 ∧ ⟨p.row,p.col - 1⟩ = q := by simpa [ahead?] using ahead
    exact Prod.ext (Int.add_zero _).symm (down beside)

theorem stepCoordinates {p q : Position} {h : Heading} (inside : p.inGrid = true)
    (step : p.step? h = some q) : q.coordinates = p.coordinates + h.offset ∧ q.inGrid = true := by
  obtain ⟨ahead,lands⟩ := Option.filter_eq_some_iff.mp step
  exact ⟨aheadCoordinates (insideRoom inside) ahead,lands⟩

end Position
end GridRobot
