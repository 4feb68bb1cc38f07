import GridRobot.Proofs.Board
import GridRobot.Proofs.Upkeep

/-! What the screen shows. The panel of the grid shows the robot, the track and, while the track is
edited, the cursor; the title shows the state of the run. All of it can be read off again, so two
applications that look alike are alike as far as their users are concerned. -/
namespace GridRobot
namespace Screen
open Picture

section Panel
variable {w h : UInt16} (wide : 40 ≤ w.toNat) (high : 19 ≤ h.toNat)
variable {a : App} (hidden : a.helpVisible = false)

section Blocks
variable {q : Position} {k : Nat}

theorem blockArrow {hd : Heading} : (blockGlyph a q k).symbol = [hd.arrow] ↔
    k = 2 ∧ q = a.session.robot.position ∧ hd = a.session.robot.heading := by
  have injective : ∀ hd hd' : Heading, hd.arrow = hd'.arrow → hd' = hd := by
    rintro (_ | _ | _ | _) (_ | _ | _ | _) <;> decide
  have space : ' ' ≠ hd.arrow := by cases hd <;> decide
  have plus : '+' ≠ hd.arrow := by cases hd <;> decide
  unfold blockGlyph cellSymbol
  simp only [List.cons.injEq,and_true]
  constructor
  · intro shown
    split at shown
    · split at shown
      · exact ⟨‹_›,‹_›,injective _ _ shown⟩
      · split at shown
        · exact absurd shown plus
        · exact absurd shown space
    · exact absurd shown space
  · rintro ⟨rfl,rfl,rfl⟩
    simp

theorem blockPlus : (blockGlyph a q k).symbol = ['+'] ↔
    k = 2 ∧ isEditing a = true ∧ q = a.cursor ∧ q ≠ a.session.robot.position := by
  have arrow : ∀ hd : Heading, hd.arrow ≠ '+' := by rintro (_ | _ | _ | _) <;> decide
  unfold blockGlyph cellSymbol
  simp only [List.cons.injEq,and_true]
  constructor
  · intro shown
    split at shown
    · split at shown
      · exact absurd shown (arrow _)
      · rename_i middle apart
        split at shown
        · rename_i edited
          simp only [Bool.and_eq_true,beq_iff_eq] at edited
          exact ⟨middle,edited.1,edited.2,apart⟩
        · exact absurd shown (by decide)
    · exact absurd shown (by decide)
  · rintro ⟨rfl,editing,rfl,apart⟩
    simp [editing,apart]

theorem blockGround : (Cell.blank.drawn (blockGlyph a q k)).style.bg = Palette.traversableCell ↔
    a.session.track.traversable q = true := by
  have brushes : ∀ traversable : Bool,
      (Style.standard.brushed (Palette.cursorCell traversable)).bg =
        (Style.standard.brushed (Palette.gridCell traversable)).bg ∧
      ((Style.standard.brushed (Palette.gridCell traversable)).bg = Palette.traversableCell ↔
        traversable = true) := by
    decide
  show (Style.standard.brushed (cellBrush a q)).bg = _ ↔ _
  obtain ⟨same,ground⟩ := brushes (a.session.track.traversable q)
  unfold cellBrush
  split
  · rw [same]
    exact ground
  · exact ground

theorem blockInk : (Cell.blank.drawn (blockGlyph a q k)).style.fg = .yellow ↔
    isEditing a = true ∧ q = a.cursor := by
  have brushes : ∀ traversable : Bool,
      (Style.standard.brushed (Palette.cursorCell traversable)).fg = .yellow ∧
      (Style.standard.brushed (Palette.gridCell traversable)).fg ≠ .yellow := by
    decide
  show (Style.standard.brushed (cellBrush a q)).fg = _ ↔ _
  obtain ⟨cursor,plain⟩ := brushes (a.session.track.traversable q)
  unfold cellBrush
  split
  · rename_i edited
    simp only [Bool.and_eq_true,beq_iff_eq] at edited
    exact iff_of_true cursor edited
  · rename_i edited
    simp only [Bool.and_eq_true,beq_iff_eq] at edited
    exact iff_of_false plain edited

end Blocks

include wide high hidden in
theorem panelIff {P : Cell → Prop} (marked : ∀ c, c.Unmarked → ¬ P c) {x y : Nat} :
    (panel w h).contains x y = true ∧ P ((a.draw w h).cell x y) ↔
      ∃ q k, Shows w q k x y ∧ P (Cell.blank.drawn (blockGlyph a q k)) := by
  constructor
  · rintro ⟨inside,found⟩
    by_cases shown : ∃ q k, Shows w q k x y
    · obtain ⟨q,k,shows⟩ := shown
      exact ⟨q,k,shows,cellShown wide high hidden shows ▸ found⟩
    · have apart : ∀ q k, ¬ Shows w q k x y := fun q k shows => shown ⟨q,k,shows⟩
      exact absurd found (marked _ (cellApart wide high hidden inside apart))
  · rintro ⟨q,k,shows,found⟩
    exact ⟨showsOnPanel wide shows,(cellShown wide high hidden shows).symm ▸ found⟩

end Panel

section Title
variable {w h : UInt16} {a : App}

theorem titleLineShort (a : App) : (titleLine a).Short 36 := by
  have label : (Line.written Palette.title "trackbot" ++ Line.written .plain "  ").Short 10 :=
    ⟨by decide +kernel,by decide +kernel⟩
  have name : ∀ s : RunState, (Line.written (stateBrush s) s.name).Short 9 := by
    rintro (_ | _ | _ | _) <;> exact ⟨by decide +kernel,by decide +kernel⟩
  refine Line.shortAppend (Line.shortAppend label (name _)) (?_ : Line.Short _ 17)
  split
  · exact ⟨by decide +kernel,by decide +kernel⟩
  · exact ⟨by decide,by decide⟩

theorem titleLineBrush {g : Glyph} (inside : g ∈ titleLine a) :
    g.brush ∈ [Palette.title,.plain,stateBrush a.session.state,Palette.highlight] := by
  unfold titleLine at inside
  simp only [List.mem_append] at inside
  rcases inside with ((name | gap) | state) | editing
  · simp [Line.writtenBrush name]
  · simp [Line.writtenBrush gap]
  · simp [Line.writtenBrush state]
  · split at editing
    · rcases List.mem_append.mp editing with gap | mode
      · simp [Line.writtenBrush gap]
      · simp [Line.writtenBrush mode]
    · contradiction

theorem titleLineState (a : App) : ∃ g ∈ titleLine a, g.brush = stateBrush a.session.state := by
  have named : ∀ s : RunState, Line.written (stateBrush s) s.name ≠ [] := by
    rintro (_ | _ | _ | _) <;> decide +kernel
  obtain ⟨g,inside⟩ := List.exists_mem_of_ne_nil _ (named a.session.state)
  refine ⟨g,?_,Line.writtenBrush inside⟩
  unfold titleLine
  simp only [List.mem_append]
  exact .inl (.inr inside)

variable (wide : 40 ≤ w.toNat) (high : 19 ≤ h.toNat) (hidden : a.helpVisible = false)

include high hidden in
theorem cellTitle (x : Nat) : (a.draw w h).cell x 1 =
    (Cell.blank.under (borderAt? (titleArea ⟨0,0,w,h⟩) (Palette.border false) x 1)).under
      (glyphAt? (titleArea ⟨0,0,w,h⟩).inner .middle (titleLine a) x) := by
  have panelTop : (gridArea ⟨0,0,w,h⟩).top = 3 := rfl
  have panelInnerTop : (gridArea ⟨0,0,w,h⟩).inner.top = 4 := rfl
  have panelTall : (gridArea ⟨0,0,w,h⟩).height.toNat = 11 := rfl
  rw [cellUpper high (by decide) hidden,drawGrid,linesOutside (by omega),
    boxOutside (by omega),drawTitle,cellLines,cellBox]
  rfl

def stateStyle (s : RunState) : Style := Style.standard.brushed (stateBrush s)

def titleGrounds : List Style := [.standard,Style.standard.brushed Palette.muted]

theorem titleGround (r : Rect) (x y : Nat) :
    (Cell.blank.under (borderAt? r (Palette.border false) x y)).style ∈ titleGrounds := by
  unfold borderAt?
  cases borderSymbol? r x y with
  | none => exact List.mem_cons_self
  | some c => exact List.mem_cons_of_mem _ (List.mem_singleton_self _)

theorem groundBrushed {s s' : RunState} {ground : Style} {b : Brush}
    (under : ground ∈ titleGrounds)
    (brush : b ∈ [Palette.title,.plain,stateBrush s,Palette.highlight])
    (same : ground.brushed b = stateStyle s') : s' = s := by
  have told : ∀ s s' : RunState, ∀ ground ∈ titleGrounds,
      ∀ b ∈ [Palette.title,.plain,stateBrush s,Palette.highlight],
        ground.brushed b = stateStyle s' → s' = s := by
    rintro (_ | _ | _ | _) (_ | _ | _ | _) <;> decide
  exact told s s' ground under b brush same

theorem groundState {ground : Style} (under : ground ∈ titleGrounds) (s : RunState) :
    ground.brushed (stateBrush s) = stateStyle s := by
  have told : ∀ s : RunState, ∀ ground ∈ titleGrounds,
      ground.brushed (stateBrush s) = stateStyle s := by
    rintro (_ | _ | _ | _) <;> decide
  exact told s ground under

include wide high hidden in
theorem titleTells (s : RunState) :
    (∃ x < w.toNat, ((a.draw w h).cell x 1).style = stateStyle s) ↔ s = a.session.state := by
  constructor
  · rintro ⟨x,_,style⟩
    rw [cellTitle high hidden] at style
    have ground := titleGround (titleArea ⟨0,0,w,h⟩) x 1
    -- where nothing is written the cell is as if a plain symbol were
    rcases Cell.underMember (Cell.blank.under _) _ with bare | ⟨g,drawn,same⟩
    · rw [bare] at style
      refine groundBrushed (b := .plain) ground (by simp) (Eq.trans ?_ style)
      simp [Style.brushed,Brush.plain]
    · rw [same] at style
      exact groundBrushed ground (titleLineBrush (glyphAtMember drawn)) style
  · rintro rfl
    obtain ⟨g,inside,brush⟩ := titleLineState a
    obtain ⟨place,bound,found⟩ := List.getElem_of_mem inside
    have width : (titleArea ⟨0,0,w,h⟩).inner.width.toNat = w.toNat - 2 := Rect.innerWidth _
    have left : (titleArea ⟨0,0,w,h⟩).inner.left = 1 := rfl
    have short := (titleLineShort a).length
    have fits : (titleLine a).Short (titleArea ⟨0,0,w,h⟩).inner.width.toNat :=
      ⟨(titleLineShort a).narrow,by omega⟩
    refine ⟨1 + ((w.toNat - 2) / 2 - (titleLine a).length / 2) + place,by omega,?_⟩
    have shown := glyphAtShort (r := (titleArea ⟨0,0,w,h⟩).inner) fits .middle
      (1 + ((w.toNat - 2) / 2 - (titleLine a).length / 2) + place)
    rw [width,left,offset,if_pos (by omega),Nat.add_sub_cancel_left,
      List.getElem?_eq_getElem bound,found] at shown
    rw [cellTitle high hidden,shown]
    refine (congrArg (Style.brushed _) brush).trans ?_
    exact groundState (titleGround _ _ 1) _

end Title
/- What can be seen of an application: a single arrow in the middle of the robot's cell, a plus in the
middle of the cursor's cell while it stands apart from the robot, the ground of the track, the ink of
the cursor, and the style of the state. -/
structure Chart (a : App) (w h : UInt16) : Prop where
  arrow : ∃ x y, Shows w a.session.robot.position 2 x y ∧ ∀ x' y' hd,
    (panel w h).contains x' y' = true ∧ ((a.draw w h).cell x' y').symbol = [hd.arrow] ↔
      hd = a.session.robot.heading ∧ x' = x ∧ y' = y
  plus : ∃ x y, Shows w a.cursor 2 x y ∧ ∀ x' y',
    (panel w h).contains x' y' = true ∧ ((a.draw w h).cell x' y').symbol = ['+'] ↔
      a.mode = .configuring ∧ a.cursor ≠ a.session.robot.position ∧ x' = x ∧ y' = y
  track : ∀ x y, (panel w h).contains x y = true ∧
    ((a.draw w h).cell x y).style.bg = Palette.traversableCell ↔
      ∃ q k, a.session.track.traversable q = true ∧ Shows w q k x y
  cursor : ∀ x y, (panel w h).contains x y = true ∧ ((a.draw w h).cell x y).style.fg = .yellow ↔
    a.mode = .configuring ∧ ∃ k, Shows w a.cursor k x y
  state : ∀ s, (∃ x < w.toNat, ((a.draw w h).cell x 1).style = stateStyle s) ↔
    s = a.session.state

theorem showsMiddle (w : UInt16) {q : Position} (inside : q.inGrid = true) :
    Shows w q 2 (cellLeft w q + 2) (cellTop q) :=
  ⟨inside,by decide,rfl,rfl⟩

theorem showsPlace {w : UInt16} {q : Position} {k x y x' y' : Nat} (shown : Shows w q k x y) :
    Shows w q k x' y' ↔ x' = x ∧ y' = y := by
  obtain ⟨inside,within,rfl,rfl⟩ := shown
  constructor
  · rintro ⟨_,_,column,row⟩
    exact ⟨column,row⟩
  · rintro ⟨column,row⟩
    exact ⟨inside,within,column,row⟩

theorem editingMode (a : App) : isEditing a = true ↔ a.mode = .configuring := by
  simp [isEditing]

section Chart
variable {w h : UInt16} (wide : 40 ≤ w.toNat) (high : 19 ≤ h.toNat)

include wide high in
theorem charted {a : App} (reachable : a.Reachable) (hidden : a.helpVisible = false) :
    Chart a w h where
  arrow := by
    have middle := showsMiddle w
      (Session.placedInGrid (App.soundReachable reachable).placed)
    refine ⟨_,_,middle,fun x' y' hd => ?_⟩
    rw [panelIff wide high hidden (P := fun c => c.symbol = [hd.arrow])
      fun c unmarked => unmarked.symbol _ (arrowMarks hd)]
    rw [← showsPlace middle]
    constructor
    · rintro ⟨q,k,shown,found⟩
      obtain ⟨rfl,rfl,heading⟩ := blockArrow.mp found
      exact ⟨heading,shown⟩
    · rintro ⟨heading,shown⟩
      exact ⟨_,_,shown,blockArrow.mpr ⟨rfl,rfl,heading⟩⟩
  plus := by
    have middle := showsMiddle w (App.cursorReachable reachable)
    refine ⟨_,_,middle,fun x' y' => ?_⟩
    rw [panelIff wide high hidden (P := fun c => c.symbol = ['+'])
      fun c unmarked => unmarked.symbol _ List.mem_cons_self]
    rw [← showsPlace middle,← editingMode]
    constructor
    · rintro ⟨q,k,shown,found⟩
      obtain ⟨rfl,editing,rfl,apart⟩ := blockPlus.mp found
      exact ⟨editing,apart,shown⟩
    · rintro ⟨editing,apart,shown⟩
      exact ⟨_,_,shown,blockPlus.mpr ⟨rfl,editing,rfl,apart⟩⟩
  track x y := by
    rw [panelIff wide high hidden (P := fun c => c.style.bg = Palette.traversableCell)
      fun c unmarked => unmarked.ground ▸ by decide]
    exact exists₂_congr fun q k => by rw [blockGround,and_comm]
  cursor x y := by
    rw [panelIff wide high hidden (P := fun c => c.style.fg = .yellow)
      fun c unmarked => unmarked.ink]
    rw [← editingMode]
    constructor
    · rintro ⟨q,k,shown,found⟩
      obtain ⟨editing,rfl⟩ := blockInk.mp found
      exact ⟨editing,k,shown⟩
    · rintro ⟨editing,k,shown⟩
      exact ⟨_,k,shown,blockInk.mpr ⟨editing,rfl⟩⟩
  state s := titleTells wide high hidden s

end Chart

structure Alike (a b : App) : Prop where
  track : a.session.track = b.session.track
  robot : a.session.robot = b.session.robot
  state : a.session.state = b.session.state
  mode : a.mode = b.mode
  cursor : a.mode = .configuring → a.cursor = b.cursor

section Alike
variable {w h : UInt16} {a b : App}

def SamePanel (w h : UInt16) (a b : App) : Prop := ∀ x y, (panel w h).contains x y = true →
  (a.draw w h).cell x y = (b.draw w h).cell x y

variable (chartA : Chart a w h) (chartB : Chart b w h) (same : SamePanel w h a b)
include chartA chartB same

theorem robotSeen : a.session.robot = b.session.robot := by
  obtain ⟨x,y,shown,arrow⟩ := chartA.arrow
  obtain ⟨x',y',shown',arrow'⟩ := chartB.arrow
  obtain ⟨inside,found⟩ := (arrow x y _).mpr ⟨rfl,rfl,rfl⟩
  rw [same x y inside] at found
  obtain ⟨heading,rfl,rfl⟩ := (arrow' x y _).mp ⟨inside,found⟩
  have position := (showsOnce shown shown').1
  cases robot : a.session.robot
  cases robot' : b.session.robot
  simp_all

theorem trackSeen {q : Position} (on : a.session.track.traversable q = true) :
    b.session.track.traversable q = true := by
  have shown := showsMiddle w (Track.traversableInGrid on)
  obtain ⟨inside,found⟩ := (chartA.track _ _).mpr ⟨q,2,on,shown⟩
  rw [same _ _ inside] at found
  obtain ⟨q',k,on',shown'⟩ := (chartB.track _ _).mp ⟨inside,found⟩
  rwa [(showsOnce shown shown').1]

theorem cursorSeen (editing : a.mode = .configuring) :
    b.mode = .configuring ∧ a.cursor = b.cursor := by
  obtain ⟨x,y,shown,_⟩ := chartA.plus
  obtain ⟨inside,found⟩ := (chartA.cursor x y).mpr ⟨editing,2,shown⟩
  rw [same x y inside] at found
  obtain ⟨editing',k,shown'⟩ := (chartB.cursor x y).mp ⟨inside,found⟩
  exact ⟨editing',(showsOnce shown shown').1⟩

end Alike

theorem alikeSeen {w h : UInt16} (high : 19 ≤ h.toNat) {a b : App}
    (chartA : Chart a w h) (chartB : Chart b w h)
    (same : (a.draw w h).rows w.toNat h.toNat = (b.draw w h).rows w.toNat h.toNat) :
    Alike a b := by
  have panels : SamePanel w h a b := fun x y inside => by
    obtain ⟨column,_,row⟩ := panelContains.mp inside
    exact cellOfRows same column (by omega)
  have panels' : SamePanel w h b a := fun x y inside => (panels x y inside).symm
  have modes : a.mode = .configuring ↔ b.mode = .configuring :=
    ⟨fun editing => (cursorSeen chartA chartB panels editing).1,
      fun editing => (cursorSeen chartB chartA panels' editing).1⟩
  refine ⟨Track.traversableExt fun q => ?_,robotSeen chartA chartB panels,?_,?_,
    fun editing => (cursorSeen chartA chartB panels editing).2⟩
  · exact Bool.eq_iff_iff.mpr
      ⟨trackSeen chartA chartB panels,trackSeen chartB chartA panels'⟩
  · obtain ⟨x,column,style⟩ := (chartA.state _).mpr rfl
    rw [cellOfRows same column (by omega)] at style
    exact (chartB.state _).mp ⟨x,column,style⟩
  · cases modeA : a.mode <;> cases modeB : b.mode <;> simp_all

theorem screenTells {w h : UInt16} (wide : 40 ≤ w.toNat) (high : 19 ≤ h.toNat) {a : App}
    (reachable : a.Reachable) (hidden : a.helpVisible = false) :
    Chart a w h ∧ ∀ b : App, b.Reachable → b.helpVisible = false →
      (a.draw w h).rows w.toNat h.toNat = (b.draw w h).rows w.toNat h.toNat → Alike a b := by
  have chart := charted wide high reachable hidden
  refine ⟨chart,fun b reachable' hidden' same => ?_⟩
  exact alikeSeen high chart (charted wide high reachable' hidden') same

theorem drawNameless (a : App) (custom : String) (w h : UInt16) :
    ({ a with customTrack := custom } : App).draw w h = a.draw w h := rfl

/- The cursor has gone to the cell below the robot. -/
def pointing (custom : String) : App :=
  let start := App.withSession (.new .staircase .standard) custom
  ((start.press .empty 0 0 (.char 'e') .none).app.press .empty 0 0 .down .none).app

theorem pointingTells :
    (pointing "a.json").Reachable ∧ (pointing "b.json").Reachable ∧
    pointing "a.json" ≠ pointing "b.json" ∧
    (pointing "a.json").cursor ≠ (pointing "a.json").session.robot.position ∧
    Chart (pointing "a.json") 40 19 ∧ Alike (pointing "a.json") (pointing "b.json") := by
  have reachable (custom : String) : (pointing custom).Reachable :=
    .press (.press (.withSession .staircase .standard [] custom) .empty 0 0 (.char 'e') .none)
      .empty 0 0 .down .none
  have hidden (custom : String) : (pointing custom).helpVisible = false := rfl
  have same : (pointing "a.json").draw 40 19 = (pointing "b.json").draw 40 19 :=
    drawNameless (pointing "b.json") "a.json" 40 19
  obtain ⟨chart,alike⟩ := screenTells (w := 40) (h := 19) (by decide) (by decide)
    (reachable "a.json") (hidden _)
  exact ⟨reachable _,reachable _,by decide +kernel,by decide +kernel,chart,
    alike _ (reachable _) (hidden _) (congrArg (fun p => p.rows 40 19) same)⟩

end Screen
end GridRobot
