import GridRobot.Track

/-! Tracks seen through `traversable`. What the operations do to single cells, and the
start: it is traversable as soon as any cell is. -/
namespace GridRobot

theorem Grid.memPositions {p : Position} : p ∈ Grid.positions ↔ p.inGrid = true := by
  simp only [positions,List.mem_flatMap,List.mem_map,List.mem_range,Position.inGrid,
    decide_eq_true_eq,Bool.and_eq_true]
  constructor
  · rintro ⟨row,rowInside,col,colInside,rfl⟩
    simp only [Grid.rows,Grid.cols,UInt64.toNat_ofNat'] at *
    omega
  · rintro ⟨rowInside,colInside⟩
    exact ⟨p.row.toNat,rowInside,p.col.toNat,colInside,by simp⟩

theorem Grid.rowWord {r : Nat} (row : r < rows) : (UInt64.ofNat r).toNat = r := by
  simp only [rows,UInt64.toNat_ofNat'] at *
  omega

theorem Grid.colWord {c : Nat} (col : c < cols) : (UInt64.ofNat c).toNat = c := by
  simp only [cols,UInt64.toNat_ofNat'] at *
  omega

namespace Track

theorem getCell {α : Type} {n : Nat} (v : Vector α n) (i : Fin n) : v.get i = v[i.val] := rfl

theorem traversableOfFn (f : Position → Bool) (p : Position) :
    (ofFn f).traversable p = (p.inGrid && f p) := by
  unfold traversable ofFn Position.inGrid
  split
  · rename_i inside
    simp only [inside,decide_true,Bool.and_self,Bool.true_and,getCell,Vector.getElem_ofFn,
      UInt64.ofNat_toNat]
  · rename_i outside
    have off : (decide (p.row.toNat < Grid.rows) && decide (p.col.toNat < Grid.cols)) = false := by
      simpa using outside
    rw [off,Bool.false_and]

def Covers (t : Track) (p : Position) : Prop :=
  ∃ (row : p.row.toNat < Grid.rows) (col : p.col.toNat < Grid.cols),
    t.cells[p.row.toNat][p.col.toNat] = true

theorem traversableCovers {t : Track} {p : Position} :
    t.traversable p = true ↔ t.Covers p := by
  unfold traversable Covers
  constructor
  · intro marked
    split at marked
    · rename_i inside
      exact ⟨inside.1,inside.2,marked⟩
    · contradiction
  · rintro ⟨row,col,marked⟩
    rw [dif_pos ⟨row,col⟩]
    exact marked

theorem traversableInGrid {t : Track} {p : Position} (track : t.traversable p = true) :
    p.inGrid = true := by
  obtain ⟨row,col,_⟩ := traversableCovers.mp track
  simp [Position.inGrid,row,col]

def rows (t : Track) : List (List Bool) := (List.range Grid.rows).map fun r =>
  (List.range Grid.cols).map fun c => t.traversable ⟨UInt64.ofNat r,UInt64.ofNat c⟩

theorem rowsShape (t : Track) : t.rows.map List.length = [5,5,5,5] := by
  simp [rows,Grid.rows,Grid.cols,List.range_succ]

theorem traversableCell (t : Track) {r c : Nat} (row : r < Grid.rows) (col : c < Grid.cols) :
    t.traversable ⟨UInt64.ofNat r,UInt64.ofNat c⟩ = t.cells[r][c] := by
  simp only [traversable,Grid.rowWord row,Grid.colWord col,row,col,and_self,dite_true]
  rfl

theorem cellsRows (t : Track) : t.cells.toList.map Vector.toList = t.rows := by
  refine List.ext_getElem (by simp [rows]) fun r _ inside => ?_
  have row : r < Grid.rows := by simpa [rows] using inside
  simp only [rows,List.getElem_map,List.getElem_range,Vector.getElem_toList]
  refine List.ext_getElem (by simp) fun c _ within => ?_
  have col : c < Grid.cols := by simpa using within
  rw [List.getElem_map,List.getElem_range,t.traversableCell row col,Vector.getElem_toList]

theorem traversableExt {t t' : Track} (same : ∀ p, t.traversable p = t'.traversable p) : t = t' := by
  have cells : t.cells = t'.cells := Vector.ext fun r row => Vector.ext fun c col => by
    rw [← t.traversableCell row col,same,t'.traversableCell row col]
  cases t
  cases t'
  exact congrArg _ cells

theorem toggleOther {t t' : Track} {p q : Position} {value : Bool}
    (toggled : t.toggle? p = some (value,t')) (other : q ≠ p) :
    t'.traversable q = t.traversable q := by
  unfold toggle? at toggled
  split at toggled
  · cases toggled
    rw [traversableOfFn,beq_false_of_ne other,Bool.bne_false]
    cases track : t.traversable q with
    | false => exact Bool.and_false _
    | true => rw [traversableInGrid track]; rfl
  · contradiction

theorem countZero {t : Track} : t.count = 0 ↔ ∀ p, t.traversable p = false := by
  rw [count,List.countP_eq_zero]
  constructor
  · intro none p
    cases track : t.traversable p with
    | false => rfl
    | true => exact absurd track (none p (Grid.memPositions.mpr (traversableInGrid track)))
  · intro none p _
    simp [none p]

theorem startTraversable (t : Track) :
    t.traversable t.start = true ∨ t.count = 0 ∧ t.start = .origin := by
  unfold start
  cases found : Grid.positions.find? t.traversable with
  | none =>
    refine .inr ⟨?_,rfl⟩
    rw [count,List.countP_eq_zero]
    exact fun p inside => List.find?_eq_none.mp found p inside
  | some p => exact .inl (List.find?_some found)

theorem startInGrid (t : Track) : t.start.inGrid = true := by
  rcases startTraversable t with on | ⟨_,atOrigin⟩
  · exact traversableInGrid on
  · rw [atOrigin]
    rfl

end Track
end GridRobot
