import GridRobot.Proofs.Drawing
import GridRobot.Proofs.Track
import GridRobot.Screen

/-! The board. Where a screen of at least forty columns and nineteen rows has the cells of the grid,
and that nothing else on the grid's panel could be taken for the robot, the cursor or a cell. -/
namespace GridRobot

def Heading.all : List Heading := [.north,.east,.south,.west]

def Screen.marks : List Char := '+' :: Heading.all.map Heading.arrow

theorem Screen.arrowMarks (h : Heading) : h.arrow ∈ marks := by
  cases h <;> decide

theorem Screen.marksAll {P : Char → Prop} (plus : P '+') (arrow : ∀ h : Heading, P h.arrow) :
    ∀ c ∈ marks, P c := by
  intro c mark
  rcases List.mem_cons.mp mark with rfl | turned
  · exact plus
  · obtain ⟨h,_,rfl⟩ := List.mem_map.mp turned
    exact arrow h

structure Glyph.Unmarked (g : Glyph) : Prop where
  symbol : ∀ c ∈ Screen.marks, g.symbol ≠ [c]
  ground : g.brush.bg = none
  ink : g.brush.fg ≠ some .yellow

structure Cell.Unmarked (c : Cell) : Prop where
  symbol : ∀ m ∈ Screen.marks, c.symbol ≠ [m]
  ground : c.style.bg = .reset
  ink : c.style.fg ≠ .yellow

namespace Cell

theorem unmarkedBlank : Unmarked .blank :=
  ⟨Screen.marksAll (by decide) fun h => by cases h <;> decide,rfl,by decide⟩

theorem unmarkedUnder {c : Cell} {g : Option Glyph} (unmarked : c.Unmarked)
    (drawn : ∀ g' ∈ g, g'.Unmarked) : (c.under g).Unmarked := by
  rcases c.underMember g with same | ⟨g',shown,same⟩
  · rw [same]
    exact unmarked
  · rw [same]
    obtain ⟨symbol,ground,ink⟩ := drawn g' shown
    refine ⟨symbol,?_,?_⟩
    · simp only [Cell.drawn,Style.brushed,ground,Option.getD_none,unmarked.ground]
    · cases color : g'.brush.fg with
      | none => simpa only [Cell.drawn,Style.brushed,color,Option.getD_none] using unmarked.ink
      | some other =>
        simpa only [Cell.drawn,Style.brushed,color,Option.getD_some,ne_eq,Option.some.injEq]
          using ink

end Cell

namespace Line

theorem writtenMember {b : Brush} {text : String} {g : Glyph} (inside : g ∈ written b text) :
    g.symbol ⊆ text.toList := by
  obtain ⟨cluster,kept,rfl⟩ := List.mem_map.mp inside
  intro c member
  rw [← Text.clustersFlatten text.toList]
  exact List.mem_flatten_of_mem (List.mem_filter.mp kept).1 member

theorem writtenUnmarked {b : Brush} {text : String} (ground : b.bg = none)
    (ink : b.fg ≠ some .yellow) (clear : ∀ c ∈ Screen.marks, c ∉ text.toList) :
    ∀ g ∈ written b text, g.Unmarked := by
  intro g inside
  have brush := writtenBrush inside
  refine ⟨fun c mark same => clear c mark ?_,brush ▸ ground,brush ▸ ink⟩
  exact writtenMember inside (same ▸ List.mem_singleton_self c)

end Line

theorem partsGet {α : Type} {n k c j : Nat} {part : Nat → List α}
    (even : ∀ c, (part c).length = k) (inside : c < n) (within : j < k) :
    ((List.range n).flatMap part)[k * c + j]? = (part c)[j]? := by
  induction n with
  | zero => contradiction
  | succ n ih =>
    have before : ((List.range n).flatMap part).length = k * n := by
      simp [List.length_flatMap,even,List.map_const',Nat.mul_comm]
    rw [List.range_succ,List.flatMap_append]
    rcases Nat.lt_succ_iff_lt_or_eq.mp inside with earlier | rfl
    · have covered : k * c + j < k * n := by
        have := Nat.mul_le_mul_left k earlier
        rw [Nat.mul_succ] at this
        omega
      rw [List.getElem?_append_left (before ▸ covered),ih earlier]
    · rw [List.getElem?_append_right (before ▸ Nat.le_add_right _ _),before,
        Nat.add_sub_cancel_left,List.flatMap_singleton]

namespace Screen
open Picture

def panel (w h : UInt16) : Rect := gridArea ⟨0,0,w,h⟩

/- The first of the five columns of a cell, and its row. The grid is thirty columns wide and stands
in the middle of the panel, and there is a row below each of its rows. -/
def cellLeft (w : UInt16) (q : Position) : Nat :=
  1 + ((w.toNat - 2) / 2 - 30 / 2) + 6 * q.col.toNat

def cellTop (q : Position) : Nat := 4 + 2 * q.row.toNat

structure Shows (w : UInt16) (q : Position) (k x y : Nat) : Prop where
  inside : q.inGrid = true
  within : k < 5
  column : x = cellLeft w q + k
  row : y = cellTop q

def blockGlyph (a : App) (q : Position) (k : Nat) : Glyph :=
  ⟨[if k = 2 then cellSymbol a q else ' '],cellBrush a q⟩

section Lines
variable (a : App)

theorem gridCellBlock (q : Position) {k : Nat} (within : k < 5) :
    (gridCell a q)[k]? = some (blockGlyph a q k) := by
  rcases k with _ | _ | _ | _ | _ | k
  case succ.succ.succ.succ.succ => omega
  all_goals rfl

theorem writtenSpace (b : Brush) : Line.written b " " = [⟨[' '],b⟩] := rfl

theorem gridCellGap (q : Position) : (gridCell a q)[5]? = some ⟨[' '],.plain⟩ := rfl

theorem gridCellLength (q : Position) : (gridCell a q).length = 6 := rfl

theorem gridLineLength (row : Nat) : (gridLine a row).length = 30 := by
  simp [gridLine,List.length_flatMap,gridCellLength,List.map_const',Grid.cols]

theorem cellSymbolMarks (q : Position) : cellSymbol a q ∈ ' ' :: marks := by
  unfold cellSymbol
  split
  · exact List.mem_cons_of_mem _ (arrowMarks _)
  · split <;> decide

theorem gridLineNarrow (row : Nat) : (gridLine a row).Narrow := by
  have space : Text.clusterWidth [' '] = 1 := by decide +kernel
  have narrow : ∀ c ∈ ' ' :: marks, Text.clusterWidth [c] = 1 := List.forall_mem_cons.mpr
    ⟨space,marksAll (by decide +kernel) fun h => by cases h <;> decide +kernel⟩
  intro g inside
  obtain ⟨col,_,cell⟩ := List.mem_flatMap.mp inside
  rcases List.mem_append.mp cell with block | gap
  · obtain ⟨c,symbol,rfl⟩ := List.mem_map.mp block
    refine narrow c ?_
    simp only [List.mem_cons,List.not_mem_nil,or_false] at symbol
    rcases symbol with rfl | rfl | rfl | rfl | rfl
    case inr.inr.inl => exact cellSymbolMarks a _
    all_goals exact List.mem_cons_self
  · rw [writtenSpace,List.mem_singleton] at gap
    exact gap ▸ narrow ' ' List.mem_cons_self

theorem gridLineGet {row col k : Nat} (inside : col < Grid.cols) (within : k < 6) :
    (gridLine a row)[6 * col + k]? =
      (gridCell a ⟨UInt64.ofNat row,UInt64.ofNat col⟩)[k]? :=
  partsGet (fun _ => gridCellLength a _) inside within

theorem gridLinesGet {row k : Nat} (inside : row < Grid.rows) (within : k < 2) :
    (gridLines a)[2 * row + k]? = [gridLine a row,[]][k]? := by
  have even (row : Nat) : [gridLine a row,[]].length = 2 := rfl
  have all : ((List.range Grid.rows).flatMap fun row => [gridLine a row,[]]).length = 8 := rfl
  rw [gridLines,List.getElem?_append_left (by simp only [Grid.rows] at *; omega)]
  exact partsGet even inside within

theorem gridLinesLast : (gridLines a)[8]? = some (robotLine a.session.robot) := rfl

theorem robotLineUnmarked (r : Robot) : ∀ g ∈ robotLine r, g.Unmarked := by
  have digits (n : Nat) : ∀ c ∈ marks, c ∉ (toString n).toList := by
    intro c mark inside
    have digit : c.isDigit = true :=
      Nat.isDigit_of_mem_toDigits (b := 10) (n := n) (by decide) (by decide) (by simpa using inside)
    have other : ∀ c ∈ marks, c.isDigit = false :=
      marksAll (by decide) fun h => by cases h <;> decide
    exact absurd digit (by simp [other c mark])
  intro g inside
  rcases List.mem_append.mp inside with label | place
  · exact Line.writtenUnmarked rfl (by decide)
      (marksAll (by decide) fun h => by cases h <;> decide) g label
  · refine Line.writtenUnmarked rfl (by decide) (fun c mark => ?_) g place
    have words : ∀ c ∈ marks, c ∉ ['('] ++ [',',' '] ++ [')'] ++ " facing ".toList ++ ['°'] :=
      marksAll (by decide) fun h => by cases h <;> decide
    have apart := words c mark
    simp only [List.mem_append,not_or] at apart
    simp only [Position.text,Heading.text,String.toList_append,List.mem_append,not_or]
    obtain ⟨⟨⟨⟨openAt,comma⟩,closeAt⟩,facing⟩,degree⟩ := apart
    have digit (n : Nat) := digits n c mark
    exact ⟨⟨⟨⟨⟨⟨openAt,digit _⟩,comma⟩,digit _⟩,closeAt⟩,facing⟩,digit _,degree⟩

end Lines

section Places
variable {w h : UInt16} {q q' : Position} {k k' x y : Nat}

theorem panelContains : (panel w h).contains x y = true ↔ x < w.toNat ∧ 3 ≤ y ∧ y < 14 := by
  have row : (panel w h).y.toNat = 3 := rfl
  have tall : (panel w h).height.toNat = 11 := rfl
  simp only [Rect.contains,Rect.left,Rect.right,Rect.top,Rect.bottom,row,tall,Bool.and_eq_true,
    decide_eq_true_eq]
  simp [panel,gridArea,and_assoc]

theorem showsIff : Shows w q k x y ↔
    (q.row.toNat < 4 ∧ q.col.toNat < 5) ∧ k < 5 ∧
    x = 1 + ((w.toNat - 2) / 2 - 15) + 6 * q.col.toNat + k ∧ y = 4 + 2 * q.row.toNat := by
  have inside : q.inGrid = true ↔ q.row.toNat < 4 ∧ q.col.toNat < 5 := by
    simp only [Position.inGrid,Bool.and_eq_true,decide_eq_true_eq]
    rfl
  constructor
  · rintro ⟨within,block,column,row⟩
    exact ⟨inside.mp within,block,column,row⟩
  · rintro ⟨within,block,column,row⟩
    exact ⟨inside.mpr within,block,column,row⟩

theorem showsOnce (shown : Shows w q k x y) (other : Shows w q' k' x y) : q = q' ∧ k = k' := by
  obtain ⟨_,within,column,row⟩ := showsIff.mp shown
  obtain ⟨_,within',column',row'⟩ := showsIff.mp other
  have rows : q.row = q'.row := UInt64.toNat_inj.mp (by omega)
  have cols : q.col = q'.col := UInt64.toNat_inj.mp (by omega)
  rw [cols] at column
  exact ⟨by cases q; cases q'; simp_all,by omega⟩

theorem showsOnPanel (wide : 40 ≤ w.toNat) (shown : Shows w q k x y) :
    (panel w h).contains x y = true := by
  obtain ⟨inside,within,column,row⟩ := showsIff.mp shown
  rw [panelContains]
  omega

end Places

section Panel
variable {w h : UInt16} {a : App} {x y : Nat}

theorem cellUpper (high : 19 ≤ h.toNat) (upper : y < 14) (hidden : a.helpVisible = false) :
    (a.draw w h).cell x y =
      (drawGrid ⟨0,0,w,h⟩ a (drawTitle ⟨0,0,w,h⟩ a .blank)).cell x y := by
  have statusTop : (statusArea ⟨0,0,w,h⟩).top = h.toNat - 2 := by
    simp only [statusArea,Rect.top,UInt16.zero_add]
    exact UInt16.toNat_sub_of_le _ _ (UInt16.le_iff_toNat_le.mpr (Nat.le_trans (by decide) high))
  have keysTop : (keysArea ⟨0,0,w,h⟩).top = h.toNat - 1 := by
    simp only [keysArea,Rect.top,UInt16.zero_add]
    exact UInt16.toNat_sub_of_le _ _ (UInt16.le_iff_toNat_le.mpr (Nat.le_trans (by decide) high))
  have programTop : (programArea ⟨0,0,w,h⟩).top = 14 := rfl
  have programInnerTop : (programArea ⟨0,0,w,h⟩).inner.top = 15 := rfl
  have programTall : (programArea ⟨0,0,w,h⟩).height.toNat = h.toNat - 16 :=
    UInt16.toNat_sub_of_le _ _ (UInt16.le_iff_toNat_le.mpr (Nat.le_trans (by decide) high))
  have status (p : Picture) : (drawStatus ⟨0,0,w,h⟩ a p).cell x y = p.cell x y := by
    unfold drawStatus
    split
    · exact linesOutside (by omega) p _ _ x
    · rfl
  unfold App.draw
  dsimp only
  rw [hidden,if_neg (by decide),drawKeys,linesOutside (by omega),status,drawProgram,
    linesOutside (by omega),boxOutside (by omega)]

theorem cellPanel (high : 19 ≤ h.toNat) (top : 3 ≤ y) (bottom : y < 14)
    (hidden : a.helpVisible = false) :
    (a.draw w h).cell x y =
      ((Cell.blank.under (borderAt? (panel w h) (Palette.border (isEditing a)) x y)).under
        (boxTitleAt? (panel w h) " Track " x y)).under
          ((lineAt? (panel w h).inner (gridLines a) y).bind
            (glyphAt? (panel w h).inner .middle · x)) := by
  have titleBottom : (titleArea ⟨0,0,w,h⟩).bottom = 3 := rfl
  have titleTall : (titleArea ⟨0,0,w,h⟩).height.toNat = 3 := rfl
  have titleInnerBottom : (titleArea ⟨0,0,w,h⟩).inner.bottom = 2 := rfl
  rw [cellUpper high bottom hidden,drawGrid,cellLines,cellBox,drawTitle,linesOutside (by omega),
    boxOutside (by omega)]
  rfl

theorem gridLineAt (wide : 40 ≤ w.toNat) (row : Nat) :
    glyphAt? (panel w h).inner .middle (gridLine a row) x =
      if 1 + ((w.toNat - 2) / 2 - 15) ≤ x
      then (gridLine a row)[x - (1 + ((w.toNat - 2) / 2 - 15))]? else none := by
  have width : (panel w h).inner.width.toNat = w.toNat - 2 := Rect.innerWidth _
  have short : (gridLine a row).Short (panel w h).inner.width.toNat :=
    ⟨gridLineNarrow a row,by rw [gridLineLength,width]; omega⟩
  rw [glyphAtShort short,gridLineLength,width]
  rfl

theorem cellShown (wide : 40 ≤ w.toNat) (high : 19 ≤ h.toNat) (hidden : a.helpVisible = false)
    {q : Position} {k : Nat} (shown : Shows w q k x y) :
    (a.draw w h).cell x y = Cell.blank.drawn (blockGlyph a q k) := by
  obtain ⟨⟨rowInside,colInside⟩,within,column,row⟩ := showsIff.mp shown
  have right : (panel w h).right = w.toNat := Nat.zero_add _
  have border : borderAt? (panel w h) (Palette.border (isEditing a)) x y = none :=
    borderAtInside (r := panel w h) (show 0 < x by omega) (by omega) (show 3 < y by omega)
      (show y + 1 < 14 by omega) _
  have title : boxTitleAt? (panel w h) " Track " x y = none :=
    boxTitleElsewhere (.inl (show y ≠ 3 by omega)) _ _
  have line : lineAt? (panel w h).inner (gridLines a) y = some (gridLine a q.row.toNat) := by
    rw [row]
    exact (lineAtInside (show 2 * q.row.toNat < 9 by omega) _).trans
      (gridLinesGet a rowInside (k := 0) (by decide))
  have glyph : glyphAt? (panel w h).inner .middle (gridLine a q.row.toNat) x =
      some (blockGlyph a q k) := by
    rw [gridLineAt wide,if_pos (by omega),
      show x - (1 + ((w.toNat - 2) / 2 - 15)) = 6 * q.col.toNat + k by omega,
      gridLineGet a colInside (by omega),gridCellBlock a _ within,UInt64.ofNat_toNat,
      UInt64.ofNat_toNat]
  rw [cellPanel high (by omega) (by omega) hidden,border,title,line,Option.bind_some,glyph]
  rfl

theorem borderUnmarked (r : Rect) (active : Bool) :
    ∀ g ∈ borderAt? r (Palette.border active) x y, g.Unmarked := by
  intro g drawn
  obtain ⟨c,symbol,rfl⟩ := Option.map_eq_some_iff.mp drawn
  have clear : ∀ m ∈ marks, [c] ≠ [m] := by
    unfold borderSymbol? at symbol
    split at symbol
    · contradiction
    · dsimp only at symbol
      (repeat' split at symbol) <;> cases symbol <;>
        exact marksAll (by decide) fun h => by cases h <;> decide
  have brush : ∀ active, (Palette.border active).bg = none ∧
      (Palette.border active).fg ≠ some .yellow := by decide
  exact ⟨clear,(brush active).1,(brush active).2⟩

theorem nameUnmarked (r : Rect) : ∀ g ∈ boxTitleAt? r " Track " x y, g.Unmarked := by
  intro g drawn
  obtain ⟨l,named,shown⟩ := Option.bind_eq_some_iff.mp drawn
  cases List.mem_singleton.mp (lineAtMember named)
  exact Line.writtenUnmarked rfl (by decide)
    (marksAll (by decide) fun h => by cases h <;> decide) g (glyphAtMember shown)

theorem gridLineUnmarked (wide : 40 ≤ w.toNat) {row : Nat} (inside : row < 4)
    (apart : ∀ q k, ¬ Shows w q k x (4 + 2 * row)) :
    ∀ g ∈ glyphAt? (panel w h).inner .middle (gridLine a row) x, g.Unmarked := by
  intro g drawn
  rw [Option.mem_def,gridLineAt wide] at drawn
  split at drawn
  · obtain ⟨place,rfl⟩ := Nat.exists_eq_add_of_le ‹_ ≤ x›
    rw [Nat.add_sub_cancel_left] at drawn
    have short : place < 30 := by
      rw [← gridLineLength a row]
      exact (List.getElem?_eq_some_iff.mp drawn).1
    have col : place / 6 < 5 := by omega
    by_cases block : place % 6 < 5
    -- the first five of six columns belong to a cell
    · refine absurd (showsIff.mpr ⟨⟨?_,?_⟩,block,?_,?_⟩)
        (apart ⟨UInt64.ofNat row,UInt64.ofNat (place / 6)⟩ (place % 6)) <;>
        simp only [UInt64.toNat_ofNat'] <;> omega
    · rw [← Nat.div_add_mod place 6,show place % 6 = 5 by omega,
        gridLineGet a col (by decide),gridCellGap] at drawn
      cases drawn
      exact ⟨Cell.unmarkedBlank.symbol,rfl,by decide⟩
  · contradiction

theorem cellApart (wide : 40 ≤ w.toNat) (high : 19 ≤ h.toNat) (hidden : a.helpVisible = false)
    (inside : (panel w h).contains x y = true) (apart : ∀ q k, ¬ Shows w q k x y) :
    ((a.draw w h).cell x y).Unmarked := by
  obtain ⟨_,top,bottom⟩ := panelContains.mp inside
  rw [cellPanel high top bottom hidden]
  refine Cell.unmarkedUnder (Cell.unmarkedUnder (Cell.unmarkedUnder Cell.unmarkedBlank
    (borderUnmarked _ _)) (nameUnmarked _)) fun g drawn => ?_
  obtain ⟨l,line,glyph⟩ := Option.bind_eq_some_iff.mp drawn
  by_cases within : 4 ≤ y ∧ y < 13
  · obtain ⟨row,rfl⟩ := Nat.exists_eq_add_of_le within.1
    have found : (gridLines a)[row]? = some l :=
      (lineAtInside (r := (panel w h).inner) (show row < 9 by omega) _).symm.trans line
    -- eight rows for the grid, every other one without a line, and a row for the robot
    rcases Nat.lt_succ_iff_lt_or_eq.mp (show row < 8 + 1 by omega) with earlier | rfl
    · rw [← Nat.div_add_mod row 2,gridLinesGet a (show row / 2 < 4 by omega) (by omega)] at found
      rcases Nat.mod_two_eq_zero_or_one row with even | odd
      · rw [even] at found
        cases found
        refine gridLineUnmarked wide (show row / 2 < 4 by omega) (fun q k shown => ?_) g glyph
        exact apart q k (by rwa [show 4 + row = 4 + 2 * (row / 2) by omega])
      · rw [odd] at found
        cases found
        exact absurd (glyphAtMember glyph) List.not_mem_nil
    · rw [gridLinesLast] at found
      cases found
      exact robotLineUnmarked _ g (glyphAtMember glyph)
  · have outside := lineAtOutside (r := (panel w h).inner) (y := y)
      (show y < 4 ∨ 13 ≤ y by omega) (gridLines a)
    rw [outside] at line
    contradiction

end Panel

end Screen
end GridRobot
