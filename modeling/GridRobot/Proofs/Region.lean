import GridRobot.Proofs.Position
import GridRobot.Proofs.Track
import Mathlib.Algebra.Ring.Parity
import Mathlib.Data.Set.Card

/-! Tracks as sets of positions. A track is a board of cells that are written one at a time, and all
that is ever asked of it depends on the set of positions where the robot may stand. A position is in
that set if it lies in the grid and has been listed or toggled an odd number of times, but not both;
how many there are and where the first of them is follows from the set alone. -/
namespace GridRobot

def Position.UpTo (p q : Position) : Prop := p.row < q.row ∨ p.row = q.row ∧ p.col ≤ q.col

namespace Grid

theorem positionsOnce : positions.Nodup := by decide

theorem positionsInOrder : positions.Pairwise Position.UpTo := by
  refine List.pairwise_flatMap.mpr ⟨fun r _ => List.pairwise_map.mpr ?_,?_⟩
  · refine List.pairwise_lt_range.imp_of_mem fun {c c'} inside inside' left => ?_
    refine .inr ⟨rfl,UInt64.le_iff_toNat_le.mpr ?_⟩
    rw [colWord (List.mem_range.mp inside),colWord (List.mem_range.mp inside')]
    exact Nat.le_of_lt left
  · refine List.pairwise_lt_range.imp_of_mem fun {r r'} inside inside' above p first q second => ?_
    obtain ⟨_,_,rfl⟩ := List.mem_map.mp first
    obtain ⟨_,_,rfl⟩ := List.mem_map.mp second
    refine .inl (UInt64.lt_iff_toNat_lt.mpr ?_)
    rw [rowWord (List.mem_range.mp inside),rowWord (List.mem_range.mp inside')]
    exact above

end Grid

namespace Track

def region (t : Track) : Set Position := {p | t.traversable p = true}

def write (t : Track) (p : Position) (value : Bool) : Track :=
  if row : p.row.toNat < Grid.rows then
    if col : p.col.toNat < Grid.cols then
      ⟨t.cells.set p.row.toNat (t.cells[p.row.toNat].set p.col.toNat value col) row⟩
    else t
  else t

section Writing
variable {t : Track} {p q : Position} {value : Bool}

theorem writeSame (inside : p.inGrid = true) : (t.write p value).traversable p = value := by
  obtain ⟨row,col⟩ := Position.insideIff.mp inside
  simp only [write,traversable,dif_pos row,dif_pos col,dif_pos (And.intro row col),getCell,
    Vector.getElem_set_self]

theorem writeOther (other : q ≠ p) : (t.write p value).traversable q = t.traversable q := by
  unfold write
  split
  · split
    · unfold traversable
      split
      · simp only [getCell,Vector.getElem_set]
        -- only a cell of the same row shares the row that is put back
        by_cases row : p.row.toNat = q.row.toNat
        · have col : p.col.toNat ≠ q.col.toNat := fun col => other <| by
            cases p
            cases q
            simp_all [UInt64.toNat_inj]
          simp only [row,if_true,Vector.getElem_set_ne _ _ col]
        · rw [if_neg row]
      · rfl
    · rfl
  · rfl

theorem writeOutside (outside : p.inGrid = false) : t.write p value = t := by
  have apart : ¬ (p.row.toNat < Grid.rows ∧ p.col.toNat < Grid.cols) :=
    mt Position.insideIff.mpr (by simp [outside])
  unfold write
  split
  · rw [dif_neg fun col => apart ⟨‹_›,col⟩]
  · rfl

theorem regionAdded (inside : p.inGrid = true) : (t.write p true).region = insert p t.region := by
  ext q
  rcases eq_or_ne q p with rfl | other
  · simp [region,writeSame inside]
  · simp [region,writeOther other,other]

theorem regionTaken (inside : p.inGrid = true) : (t.write p false).region = t.region \ {p} := by
  ext q
  rcases eq_or_ne q p with rfl | other
  · simp [region,writeSame inside]
  · simp [region,writeOther other,other]

theorem toggleWrites (t : Track) (p : Position) :
    t.toggle? p = if p.inGrid then some (!t.traversable p,t.write p !t.traversable p) else none := by
  cases inside : p.inGrid with
  | false => simp [toggle?,inside]
  | true =>
    have toggled : t.toggle? p =
        some (!t.traversable p,ofFn fun q => t.traversable q != (q == p)) := if_pos inside
    have written : (ofFn fun q => t.traversable q != (q == p)) = t.write p !t.traversable p := by
      refine traversableExt fun q => ?_
      rcases eq_or_ne q p with rfl | other
      · rw [traversableOfFn,writeSame inside,inside]
        simp
      · rw [toggleOther toggled other,writeOther other]
    rw [toggled,written]
    rfl

theorem regionWritten (t : Track) (p : Position) :
    (t.write p true).region = t.region ∪ {q | q.inGrid = true ∧ q = p} := by
  ext q
  rcases eq_or_ne q p with rfl | other
  · cases inside : q.inGrid with
    | true => simp [region,writeSame inside,inside]
    | false => simp [writeOutside inside,inside]
  · simp [region,writeOther other,other]

theorem regionListed (ps : List Position) :
    (ps.foldl (·.write · true) t).region = t.region ∪ {p | p.inGrid = true ∧ p ∈ ps} := by
  induction ps generalizing t with
  | nil => simp
  | cons p rest ih =>
    rw [List.foldl_cons,ih,regionWritten,Set.union_assoc]
    simp only [List.mem_cons,and_or_left,Set.ofPred_or]

end Writing

theorem regionOfPositions (ps : List Position) :
    (ofPositions ps).region = {p | p.inGrid = true ∧ p ∈ ps} := by
  ext p
  simp [region,ofPositions,traversableOfFn]

theorem regionExt {t t' : Track} (same : t.region = t'.region) : t = t' :=
  traversableExt fun p => Bool.eq_iff_iff.mpr (Set.ext_iff.mp same p)

theorem ofPositionsWritten (ps : List Position) :
    ofPositions ps = ps.foldl (·.write · true) empty := by
  refine regionExt ?_
  have bare : empty.region = ∅ := by
    ext p
    simp [region,empty,traversableOfFn]
  rw [regionOfPositions,regionListed,bare,Set.empty_union]

theorem countRegion (t : Track) : t.count = t.region.ncard := by
  have listed : t.region = ↑(Grid.positions.filter t.traversable).toFinset := by
    ext p
    simp only [region,Set.mem_ofPred_eq,List.coe_toFinset,List.mem_filter,Grid.memPositions]
    exact ⟨fun on => ⟨traversableInGrid on,on⟩,And.right⟩
  rw [listed,Set.ncard_coe_finset,List.toFinset_card_of_nodup (Grid.positionsOnce.filter _),count,
    List.countP_eq_length_filter]

theorem regionFinite (t : Track) : t.region.Finite :=
  (Grid.positions.toFinset.finite_toSet).subset fun p on => by
    simpa [Grid.memPositions] using traversableInGrid on

theorem startFirst (t : Track) :
    (t.start ∈ t.region ∧ ∀ p ∈ t.region, t.start.UpTo p) ∨ t.region = ∅ ∧ t.start = .origin := by
  unfold start
  cases found : Grid.positions.find? t.traversable with
  | none =>
    refine .inr ⟨?_,rfl⟩
    refine Set.eq_empty_of_forall_notMem fun p on => ?_
    exact List.find?_eq_none.mp found p (Grid.memPositions.mpr (traversableInGrid on)) on
  | some p =>
    obtain ⟨on,before,after,split,off⟩ := List.find?_eq_some_iff_append.mp found
    refine .inl ⟨on,fun q on' => ?_⟩
    have listed : q ∈ before ++ p :: after := split ▸ Grid.memPositions.mpr (traversableInGrid on')
    have order := split ▸ Grid.positionsInOrder
    rcases List.mem_append.mp listed with early | late
    · exact absurd on' (by simpa [region] using off q early)
    · rcases List.mem_cons.mp late with rfl | later
      · exact .inr ⟨rfl,UInt64.le_refl _⟩
      · exact List.rel_of_pairwise_cons (List.pairwise_append.mp order).2.1 later

def toggled (t : Track) (p : Position) : Track := ((t.toggle? p).map Prod.snd).getD t

def toggledAll (t : Track) (ps : List Position) : Track := ps.foldl toggled t

inductive Toggles (t : Track) (p : Position) : Option Bool → Track → Prop where
  | adds {t' : Track} (inside : p.inGrid = true) (off : t.traversable p = false)
      (on : t'.traversable p = true) (others : ∀ q, q ≠ p → t'.traversable q = t.traversable q)
      (count : t'.count = t.count + 1) : Toggles t p (some true) t'
  | takes {t' : Track} (inside : p.inGrid = true) (on : t.traversable p = true)
      (off : t'.traversable p = false) (others : ∀ q, q ≠ p → t'.traversable q = t.traversable q)
      (count : t'.count + 1 = t.count) : Toggles t p (some false) t'
  | nowhere (outside : p.inGrid = false) : Toggles t p none t

theorem toggleToggles (t : Track) (p : Position) :
    t.Toggles p ((t.toggle? p).map Prod.fst) (t.toggled p) := by
  rw [toggled,toggleWrites]
  cases inside : p.inGrid with
  | false => exact .nowhere inside
  | true =>
    cases on : t.traversable p with
    | false =>
      refine .adds inside on (writeSame inside) (fun _ => writeOther) ?_
      change (t.write p true).count = t.count + 1
      rw [countRegion,countRegion,regionAdded inside,
        Set.ncard_insert_of_notMem (by simp [region,on]) t.regionFinite]
    | true =>
      refine .takes inside on (writeSame inside) (fun _ => writeOther) ?_
      change (t.write p false).count + 1 = t.count
      rw [countRegion,countRegion,regionTaken inside,
        Set.ncard_sdiff_singleton_add_one (show p ∈ t.region from on) t.regionFinite]

theorem toggledIff {t : Track} {p q : Position} :
    (t.toggled p).traversable q = true ↔
      q.inGrid = true ∧ ¬ (t.traversable q = true ↔ q = p) := by
  have within : t.traversable q = true → q.inGrid = true := traversableInGrid
  have toggles := t.toggleToggles p
  generalize (t.toggle? p).map Prod.fst = answer, t.toggled p = t' at toggles ⊢
  rcases eq_or_ne q p with rfl | other
  · cases toggles with
    | adds inside off on => simp [inside,off,on]
    | takes inside on off => simp [inside,off,on]
    | nowhere outside => simpa [outside] using within
  · cases toggles with
    | adds _ _ _ others | takes _ _ _ others => simpa [others q other,other] using within
    | nowhere => simpa [other] using within

theorem toggledConcat (t : Track) (ps : List Position) (p : Position) :
    t.toggledAll (ps ++ [p]) = (t.toggledAll ps).toggled p := by
  rw [toggledAll,List.foldl_append]
  rfl

theorem toggledAllIff {t : Track} {ps : List Position} {q : Position} :
    (t.toggledAll ps).traversable q = true ↔
      q.inGrid = true ∧ ¬ (t.traversable q = true ↔ Odd (ps.count q)) := by
  induction ps generalizing t with
  | nil =>
    have within : t.traversable q = true → q.inGrid = true := traversableInGrid
    simpa [toggledAll] using within
  | cons p rest ih =>
    rw [toggledAll,List.foldl_cons,← toggledAll,ih,toggledIff]
    rcases eq_or_ne q p with rfl | other
    · rw [List.count_cons_self,Nat.odd_add_one]
      by_cases inside : q.inGrid = true <;> by_cases on : t.traversable q = true <;>
        simp [inside,on]
    · rw [List.count_cons_of_ne other.symm]
      by_cases inside : q.inGrid = true <;> simp [inside,other]

/- In the grid, and listed or toggled an odd number of times, but not both. -/
def marked (listed toggles : List Position) : Set Position :=
  {p | p.inGrid = true ∧ ¬ (p ∈ listed ↔ Odd (toggles.count p))}

theorem regionMarked (listed toggles : List Position) :
    ((ofPositions listed).toggledAll toggles).region = marked listed toggles := by
  ext p
  have on : (ofPositions listed).traversable p = true ↔ p.inGrid = true ∧ p ∈ listed :=
    Set.ext_iff.mp (regionOfPositions listed) p
  change (toggledAll _ _).traversable p = true ↔ _
  rw [toggledAllIff,on]
  exact and_congr_right fun inside => by rw [and_iff_right inside]

structure Charts (t : Track) (places : Set Position) : Prop where
  traversable : ∀ p, t.traversable p = true ↔ p ∈ places
  finite : places.Finite
  count : t.count = places.ncard
  start : (t.start ∈ places ∧ ∀ p ∈ places, t.start.UpTo p) ∨ places = ∅ ∧ t.start = .origin

theorem chartsRegion (t : Track) : t.Charts t.region where
  traversable _ := Iff.rfl
  finite := t.regionFinite
  count := t.countRegion
  start := t.startFirst

theorem ofPositionsAlike {listed others : List Position} :
    ofPositions listed = ofPositions others ↔
      ∀ p, p.inGrid = true → (p ∈ listed ↔ p ∈ others) := by
  constructor
  · intro same p inside
    have alike := Set.ext_iff.mp (congrArg region same) p
    simpa [regionOfPositions,inside] using alike
  · intro alike
    refine regionExt ?_
    rw [regionOfPositions,regionOfPositions]
    exact Set.ext fun p => and_congr_right (alike p)

theorem tracksAreSets (listed toggles : List Position) :
    ofPositions listed = listed.foldl (·.write · true) empty ∧
    ((ofPositions listed).toggledAll toggles).Charts (marked listed toggles) ∧
    (∀ p, ((ofPositions listed).toggledAll toggles).Toggles p
      ((((ofPositions listed).toggledAll toggles).toggle? p).map Prod.fst)
      ((ofPositions listed).toggledAll (toggles ++ [p]))) ∧
    ∀ others, ofPositions listed = ofPositions others ↔
      ∀ p, p.inGrid = true → (p ∈ listed ↔ p ∈ others) :=
  ⟨ofPositionsWritten listed,regionMarked listed toggles ▸ chartsRegion _,
    fun p => toggledConcat _ toggles p ▸ toggleToggles _ p,fun _ => ofPositionsAlike⟩

/- A cell that was listed and toggled is gone, and one that was toggled twice was never there. -/
example : ((ofPositions [⟨2,1⟩,⟨9,9⟩,⟨1,3⟩]).toggledAll [⟨0,2⟩,⟨1,3⟩,⟨4,0⟩,⟨0,2⟩]).start = ⟨2,1⟩ := by
  decide

end Track
end GridRobot
