import GridRobot.Screen.Picture
import Mathlib.Data.UInt

/-! Drawing, cell by cell. Whatever draws a line or a box gives each cell one symbol or none; which
one it is follows from the place alone, and so does what is left as it was. -/
namespace GridRobot

namespace Rect
variable {r : Rect} {x y : Nat}

theorem containsIff :
    r.contains x y = true ↔ (r.left ≤ x ∧ x < r.right) ∧ r.top ≤ y ∧ y < r.bottom := by
  simp only [contains,Bool.and_eq_true,decide_eq_true_eq,and_assoc]

theorem innerWidth (r : Rect) : r.inner.width.toNat = r.width.toNat - 2 := by
  have := r.width.toNat_lt
  rw [inner,UInt16.toNat_ofNat']
  omega

theorem innerHeight (r : Rect) : r.inner.height.toNat = r.height.toNat - 2 := by
  have := r.height.toNat_lt
  rw [inner,UInt16.toNat_ofNat']
  omega

/- Its ends are words as well. -/
structure Fits (r : Rect) : Prop where
  right : r.right < UInt16.size
  bottom : r.bottom < UInt16.size

structure Within (r area : Rect) : Prop where
  left : area.left ≤ r.left
  right : r.right ≤ area.right
  top : area.top ≤ r.top
  bottom : r.bottom ≤ area.bottom

theorem containsWithin {area : Rect} (within : r.Within area) (inside : r.contains x y = true) :
    area.contains x y = true := by
  obtain ⟨⟨left,right⟩,top,bottom⟩ := containsIff.mp inside
  exact containsIff.mpr ⟨⟨within.left.trans left,right.trans_le within.right⟩,
    within.top.trans top,bottom.trans_le within.bottom⟩

theorem innerColumns (fits : r.Fits) (inside : r.inner.left ≤ x ∧ x < r.inner.right) :
    r.left ≤ x ∧ x < r.right := by
  have left : r.inner.left = (r.left + 1) % 65536 := UInt16.toNat_add _ _
  have right : r.inner.right = r.inner.left + (r.width.toNat - 2) :=
    congrArg (r.inner.left + ·) r.innerWidth
  have columns : r.right = r.left + r.width.toNat := rfl
  have last : r.right < 65536 := fits.right
  omega

theorem innerRows (fits : r.Fits) (inside : r.inner.top ≤ y ∧ y < r.inner.bottom) :
    r.top ≤ y ∧ y < r.bottom := by
  have top : r.inner.top = (r.top + 1) % 65536 := UInt16.toNat_add _ _
  have bottom : r.inner.bottom = r.inner.top + (r.height.toNat - 2) :=
    congrArg (r.inner.top + ·) r.innerHeight
  have rows : r.bottom = r.top + r.height.toNat := rfl
  have last : r.bottom < 65536 := fits.bottom
  omega

theorem innerInside (fits : r.Fits) (inside : r.inner.contains x y = true) :
    r.contains x y = true := by
  obtain ⟨across,down⟩ := containsIff.mp inside
  exact containsIff.mpr ⟨innerColumns fits across,innerRows fits down⟩

end Rect

namespace Line

theorem writtenBrush {b : Brush} {text : String} {g : Glyph} (inside : g ∈ written b text) :
    g.brush = b := by
  obtain ⟨_,_,rfl⟩ := List.mem_map.mp inside
  rfl

theorem upToSublist (room : Nat) (l : Line) : (upTo room l).Sublist l := by
  induction l generalizing room with
  | nil => exact .slnil
  | cons g gs ih =>
    unfold upTo
    split
    · exact (ih _).cons_cons g
    · exact List.nil_sublist _

theorem fitSublist (room : Nat) (l : Line) : (l.fit room).Sublist l :=
  (upToSublist room _).trans List.filter_sublist

theorem columnsMember {l : Line} {g : Glyph} (shown : some g ∈ l.columns) : g ∈ l := by
  obtain ⟨g',inside,column⟩ := List.mem_flatMap.mp shown
  split at column
  · contradiction
  · rcases List.mem_cons.mp column with same | rest
    · exact Option.some.inj same ▸ inside
    · exact absurd (List.eq_of_mem_replicate rest) (by simp)

theorem memberWidth {l : Line} {g : Glyph} (inside : g ∈ l) : g.width ≤ l.width := by
  induction l with
  | nil => contradiction
  | cons g' gs ih =>
    have split : width (g' :: gs) = g'.width + width gs := rfl
    rcases List.mem_cons.mp inside with rfl | later
    · omega
    · have := ih later
      omega

theorem upToFitting {room : Nat} {l : Line} (fits : l.width ≤ room) : upTo room l = l := by
  induction l generalizing room with
  | nil => rfl
  | cons g gs ih =>
    have split : width (g :: gs) = g.width + width gs := rfl
    rw [upTo,if_pos (by omega),ih (by omega)]

theorem fitFitting {room : Nat} {l : Line} (fits : l.width ≤ room) : l.fit room = l := by
  have whole : l.filter (·.width ≤ room) = l := List.filter_eq_self.mpr fun g inside =>
    decide_eq_true (Nat.le_trans (memberWidth inside) fits)
  rw [fit,whole,upToFitting fits]

theorem upToWidth (room : Nat) (l : Line) : (upTo room l).width ≤ room := by
  induction l generalizing room with
  | nil => exact Nat.zero_le room
  | cons g gs ih =>
    unfold upTo
    split
    · have split : width (g :: upTo (room - g.width) gs) =
          g.width + width (upTo (room - g.width) gs) := rfl
      have rest := ih (room - g.width)
      omega
    · exact Nat.zero_le room

theorem columnsLength (l : Line) : l.columns.length = l.width := by
  induction l with
  | nil => rfl
  | cons g gs ih =>
    have split : width (g :: gs) = g.width + width gs := rfl
    unfold columns at ih ⊢
    rw [List.flatMap_cons,List.length_append,ih,split]
    cases g.width <;> simp

def Narrow (l : Line) : Prop := ∀ g ∈ l, g.width = 1
instance (l : Line) : Decidable l.Narrow := by unfold Narrow; infer_instance

theorem widthNarrow {l : Line} (narrow : l.Narrow) : l.width = l.length := by
  induction l with
  | nil => rfl
  | cons g gs ih =>
    have rest : width gs = gs.length := ih fun g' inside => narrow g' (List.mem_cons_of_mem g inside)
    have split : width (g :: gs) = g.width + width gs := rfl
    rw [split,narrow g List.mem_cons_self,rest,List.length_cons,Nat.add_comm]

theorem columnsNarrow {l : Line} (narrow : l.Narrow) : l.columns = l.map some := by
  induction l with
  | nil => rfl
  | cons g gs ih =>
    have rest : columns gs = gs.map some :=
      ih fun g' inside => narrow g' (List.mem_cons_of_mem g inside)
    unfold columns at rest ⊢
    rw [List.flatMap_cons,rest,narrow g List.mem_cons_self]
    rfl

structure Short (l : Line) (room : Nat) : Prop where
  narrow : l.Narrow
  length : l.length ≤ room

theorem shortAppend {l l' : Line} {room room' : Nat} (before : l.Short room)
    (after : l'.Short room') : Short (l ++ l') (room + room') where
  narrow := List.forall_mem_append.mpr ⟨before.narrow,after.narrow⟩
  length := by
    rw [List.length_append]
    exact Nat.add_le_add before.length after.length

end Line

namespace Cell

def under (c : Cell) (g : Option Glyph) : Cell := g.elim c c.drawn

theorem underMember (c : Cell) (g : Option Glyph) :
    c.under g = c ∨ ∃ g' ∈ g, c.under g = c.drawn g' := by
  cases g with
  | none => exact .inl rfl
  | some g => exact .inr ⟨g,rfl,rfl⟩

end Cell

namespace Picture

def glyphAt? (r : Rect) (a : Alignment) (l : Line) (x : Nat) : Option Glyph :=
  let shown := l.fit r.width.toNat
  let left := r.left + offset r.width.toNat shown.width a
  if left ≤ x then shown.columns[x - left]?.join else none

theorem glyphAtMember {r : Rect} {a : Alignment} {l : Line} {x : Nat} {g : Glyph}
    (shown : glyphAt? r a l x = some g) : g ∈ l := by
  unfold glyphAt? at shown
  dsimp only at shown
  split at shown
  · have column := List.mem_of_getElem? (Option.join_eq_some_iff.mp shown)
    exact (Line.fitSublist _ l).subset (Line.columnsMember column)
  · contradiction

theorem glyphAtOutside {r : Rect} {x : Nat} (outside : x < r.left ∨ r.right ≤ x) (a : Alignment)
    (l : Line) : glyphAt? r a l x = none := by
  have fits : (l.fit r.width.toNat).width ≤ r.width.toNat := Line.upToWidth _ _
  have right : r.right = r.left + r.width.toNat := rfl
  unfold glyphAt?
  dsimp only
  split
  · rw [List.getElem?_eq_none]
    · rfl
    · rw [Line.columnsLength]
      cases a <;> simp only [offset] at * <;> omega
  · rfl

theorem glyphAtShort {r : Rect} {l : Line} (short : l.Short r.width.toNat) (a : Alignment) (x : Nat) :
    glyphAt? r a l x =
      if r.left + offset r.width.toNat l.length a ≤ x
      then l[x - (r.left + offset r.width.toNat l.length a)]? else none := by
  have width := Line.widthNarrow short.narrow
  unfold glyphAt?
  rw [Line.fitFitting (width ▸ short.length)]
  dsimp only
  rw [width,Line.columnsNarrow short.narrow]
  split
  · rw [List.getElem?_map]
    cases l[x - (r.left + offset r.width.toNat l.length a)]? <;> rfl
  · rfl

theorem cellStrip (p : Picture) (x y : Nat) (glyphs : List (Option Glyph)) (x' y' : Nat) :
    (p.strip x y glyphs).cell x' y' =
      (p.cell x' y').under (if y' = y ∧ x ≤ x' then glyphs[x' - x]?.join else none) := by
  unfold strip
  dsimp only
  split
  · rcases glyphs[x' - x]? with _ | _ | g <;> rfl
  · rfl

theorem cellLine (p : Picture) (r : Rect) (row : Nat) (a : Alignment) (l : Line) (x y : Nat) :
    (p.line r row a l).cell x y =
      (p.cell x y).under (if y = r.top + row then glyphAt? r a l x else none) := by
  rw [line,cellStrip,glyphAt?]
  by_cases here : y = r.top + row
  · simp only [here,true_and,if_true]
  · simp only [here,false_and,if_false]

def lineAt? (r : Rect) (ls : List Line) (y : Nat) : Option Line :=
  if r.top ≤ y then (ls.take r.height.toNat)[y - r.top]? else none

theorem cellLinesFrom (r : Rect) (a : Alignment) (ls : List Line) (row : Nat) (p : Picture)
    (x y : Nat) :
    ((ls.zipIdx row).foldl (fun p (l,row) => p.line r row a l) p).cell x y =
      (p.cell x y).under
        ((if r.top + row ≤ y then ls[y - (r.top + row)]? else none).bind (glyphAt? r a · x)) := by
  induction ls generalizing row p with
  | nil => simp [Cell.under]
  | cons l rest ih =>
    rw [List.zipIdx_cons,List.foldl_cons,ih,cellLine]
    -- this line is drawn in its own row, and all that follow are drawn below it
    rcases Nat.lt_trichotomy y (r.top + row) with above | here | below
    · rw [if_neg (by omega),if_neg (by omega),if_neg (by omega)]
      rfl
    · rw [if_pos here,if_neg (by omega),if_pos (by omega),here,Nat.sub_self]
      rfl
    · obtain ⟨n,rfl⟩ := Nat.exists_eq_add_of_lt below
      rw [if_neg (by omega),if_pos (by omega),if_pos (by omega),
        show r.top + row + n + 1 - (r.top + row) = n + 1 by omega,
        show r.top + row + n + 1 - (r.top + (row + 1)) = n by omega]
      rfl

theorem cellLines (p : Picture) (r : Rect) (a : Alignment) (ls : List Line) (x y : Nat) :
    (p.lines r a ls).cell x y =
      (p.cell x y).under ((lineAt? r ls y).bind (glyphAt? r a · x)) :=
  cellLinesFrom r a (ls.take r.height.toNat) 0 p x y

theorem lineAtOutside {r : Rect} {y : Nat} (outside : y < r.top ∨ r.bottom ≤ y) (ls : List Line) :
    lineAt? r ls y = none := by
  unfold lineAt?
  unfold Rect.top Rect.bottom at *
  split
  · rw [List.getElem?_eq_none_iff,List.length_take]
    omega
  · rfl

theorem lineAtMember {r : Rect} {ls : List Line} {y : Nat} {l : Line}
    (drawn : lineAt? r ls y = some l) : l ∈ ls := by
  unfold lineAt? at drawn
  split at drawn
  · exact List.mem_of_mem_take (List.mem_of_getElem? drawn)
  · contradiction

theorem lineAtInside {r : Rect} {row : Nat} (inside : row < r.height.toNat) (ls : List Line) :
    lineAt? r ls (r.top + row) = ls[row]? := by
  rw [lineAt?,if_pos (by omega),Nat.add_sub_cancel_left,List.getElem?_take_of_lt inside]

theorem linesOutside {r : Rect} {y : Nat} (outside : y < r.top ∨ r.bottom ≤ y) (p : Picture)
    (a : Alignment) (ls : List Line) (x : Nat) : (p.lines r a ls).cell x y = p.cell x y := by
  rw [cellLines,lineAtOutside outside]
  rfl

def borderAt? (r : Rect) (b : Brush) (x y : Nat) : Option Glyph :=
  (borderSymbol? r x y).map (⟨[·],b⟩)

def boxTitleAt? (r : Rect) (title : String) (x y : Nat) : Option Glyph :=
  (lineAt? (titleRow r) [.written .plain title] y).bind (glyphAt? (titleRow r) .leftmost · x)

theorem cellBox (p : Picture) (r : Rect) (b : Brush) (title : String) (x y : Nat) :
    (p.box r b title).cell x y =
      ((p.cell x y).under (borderAt? r b x y)).under (boxTitleAt? r title x y) := by
  have border : (p.border r b).cell x y = (p.cell x y).under (borderAt? r b x y) := by
    unfold Picture.border borderAt?
    dsimp only
    cases borderSymbol? r x y <;> rfl
  rw [box,cellLines,border]
  rfl

theorem titleRowBottom (r : Rect) : (titleRow r).bottom = r.top + min 1 r.height.toNat :=
  congrArg (r.top + ·) (UInt16.toNat_min 1 r.height)

theorem boxTitleElsewhere {r : Rect} {y : Nat} (elsewhere : y ≠ r.top ∨ r.height.toNat = 0)
    (title : String) (x : Nat) : boxTitleAt? r title x y = none := by
  have top : (titleRow r).top = r.top := rfl
  have bottom := titleRowBottom r
  rw [boxTitleAt?,lineAtOutside (by omega)]
  rfl

theorem borderAtInside {r : Rect} {x y : Nat} (left : r.left < x) (right : x + 1 < r.right)
    (top : r.top < y) (bottom : y + 1 < r.bottom) (b : Brush) : borderAt? r b x y = none := by
  have symbol : borderSymbol? r x y = none := by
    unfold borderSymbol?
    split
    · rfl
    · rw [if_neg (by omega),if_neg (by omega),if_neg (by omega)]
  rw [borderAt?,symbol]
  rfl

theorem boxOutside {r : Rect} {y : Nat} (outside : y < r.top ∨ r.bottom ≤ y)
    (p : Picture) (b : Brush) (title : String) (x : Nat) :
    (p.box r b title).cell x y = p.cell x y := by
  have border : borderSymbol? r x y = none := by
    unfold borderSymbol?
    rw [if_pos]
    simp only [Rect.contains,Bool.not_eq_true',Bool.and_eq_false_iff,decide_eq_false_iff_not]
    omega
  have apart : y ≠ r.top ∨ r.height.toNat = 0 := by
    unfold Rect.top Rect.bottom at *
    omega
  rw [cellBox,borderAt?,border,boxTitleElsewhere apart]
  rfl

def ChangesOnly (r : Rect) (draw : Picture → Picture) : Prop :=
  ∀ p x y, r.contains x y = false → (draw p).cell x y = p.cell x y

section Extent
variable {r area : Rect} {draw draw' : Picture → Picture}

theorem ChangesOnly.andThen (first : ChangesOnly r draw) (later : ChangesOnly r draw') :
    ChangesOnly r fun p => draw' (draw p) :=
  fun p x y outside => (later (draw p) x y outside).trans (first p x y outside)

theorem ChangesOnly.inside (changes : ChangesOnly r draw)
    (inside : ∀ x y, r.contains x y = true → area.contains x y = true) : ChangesOnly area draw :=
  fun p x y outside => changes p x y <| by simpa [outside] using mt (inside x y)

theorem clearOnly (r : Rect) : ChangesOnly r (clear r) :=
  fun _ _ _ outside => if_neg (by simp [outside])

theorem tintOnly (r : Rect) (b : Brush) : ChangesOnly r (tint r b) :=
  fun _ _ _ outside => if_neg (by simp [outside])

theorem linesOnly (r : Rect) (a : Alignment) (ls : List Line) : ChangesOnly r (lines r a ls) := by
  intro p x y outside
  have apart : ¬ ((r.left ≤ x ∧ x < r.right) ∧ r.top ≤ y ∧ y < r.bottom) := by
    rw [← Rect.containsIff,outside]
    exact Bool.false_ne_true
  by_cases row : r.top ≤ y ∧ y < r.bottom
  · rw [cellLines]
    cases lineAt? r ls y with
    | none => rfl
    | some l =>
      rw [Option.bind_some,glyphAtOutside (by omega)]
      rfl
  · exact linesOutside (by omega) p a ls x

theorem borderOnly (r : Rect) (b : Brush) : ChangesOnly r (border r b) := by
  intro p x y outside
  have symbol : borderSymbol? r x y = none := if_pos (by simp [outside])
  unfold border
  dsimp only
  rw [symbol]

theorem titleRowInside {x y : Nat} (fits : r.Fits) (inside : (titleRow r).contains x y = true) :
    r.contains x y = true := by
  obtain ⟨across,top,bottom⟩ := Rect.containsIff.mp inside
  have rows : r.bottom = r.top + r.height.toNat := rfl
  rw [titleRowBottom] at bottom
  exact Rect.containsIff.mpr ⟨Rect.innerColumns fits across,top,by omega⟩

theorem boxOnly (fits : r.Fits) (b : Brush) (title : String) : ChangesOnly r (box r b title) :=
  (borderOnly r b).andThen ((linesOnly (titleRow r) _ _).inside fun _ _ => titleRowInside fits)

end Extent

theorem cellOfRows {p q : Picture} {width height x y : Nat}
    (same : p.rows width height = q.rows width height) (column : x < width) (row : y < height) :
    p.cell x y = q.cell x y := by
  have rows := List.map_inj_left.mp same y (List.mem_range.mpr row)
  exact List.map_inj_left.mp rows x (List.mem_range.mpr column)

end Picture
end GridRobot
