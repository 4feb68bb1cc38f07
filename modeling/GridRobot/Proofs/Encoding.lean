import GridRobot.Proofs.Json.Spelling
import GridRobot.Proofs.TrackFile

/-! Programs, positions and tracks as documents. However their text is laid out it is read as what
it was made of, and so are the other ways in which they may be written. An array is a track just if
it has the rows and the cells of the grid, and nothing else is a track. -/
namespace GridRobot
open Json

structure Encodes {α : Type} (r : Reader α) (v : Value) (a : α) : Prop where
  compact : r.document v.compactText = .ok a
  spread : r.document v.spreadText = .ok a
  anyhow : ∀ s, DocumentOf v s → r.document s = .ok a

theorem encodesAnyhow {α : Type} {r : Reader α} {v : Value} {a : α}
    (anyhow : ∀ s, DocumentOf v s → r.document s = .ok a) : Encodes r v a :=
  ⟨anyhow _ (compactDocument v),anyhow _ (spreadDocument v),anyhow⟩

theorem encodesReads {α : Type} {r : Reader α} {v : Value} {a : α}
    (reads : ∀ cs, Tells v cs → Reads r a cs) : Encodes r v a := by
  refine encodesAnyhow fun s told => ?_
  obtain ⟨before,after,cs,tells,rfl⟩ := told
  exact documentRead (fun _ ends => (reads cs tells).run ends) before after

namespace Instruction

/- The two ways to write an instruction: its tag, or an object in which the tag names nothing. -/
inductive Form (i : Instruction) : Value → Prop where
  | tag : Form i (.text i.tag)
  | object : Form i (.object [(i.tag,.null)])

theorem readTag (i : Instruction) (ts : List Token) : ofTag ts (.ok i.tag.toList) = .ok i := by
  simp only [ofTag,String.ofList_toList,ofTagTag]

theorem readsTag {i : Instruction} {cs : List Char} (text : TextOf i.tag cs) :
    Reads reader i cs := by
  intro rest _
  refine ⟨_,_,tokensTextOf text rest,by simp,?_⟩
  simp only [reader,readTokens,readTag,Except.map]

theorem readsTagged {i : Instruction} {m : Named} (name : m.name = i.tag)
    (null : m.value = "null".toList) (last : Gap) :
    Reads reader i (objectText [m.toMember] last) := by
  intro rest _
  have ends : Ends (last.chars ++ '}' :: rest) := laterEnds [] (.inr rfl) rest
  have nothing : (Reader.null "unit").memberValue.run (tokens (m.afterKey ++ (last.chars ++ '}' :: rest))) =
      .ok ((),.closeObject :: tokens rest) := by
    rw [readsMember (null ▸ readsNull "unit") ends,tokensGap,tokensMark rfl]
  have ended : endTagged (tokens (m.afterKey ++ (last.chars ++ '}' :: rest))) = .ok (tokens rest) := by
    simp only [endTagged,nothing]
  refine ⟨_,_,tokensObject [m] last rest,by simp,?_⟩
  rw [List.map_singleton,show joined true [m.text] = m.text from List.intercalate_singleton ..,
    tokensNamed,name]
  simp only [reader,readTokens,readTag,ended,Except.bind,Except.map]

theorem readsForm {i : Instruction} {v : Value} {cs : List Char} (form : i.Form v)
    (tells : Tells v cs) : Reads reader i cs := by
  cases form with
  | tag => exact readsTag tells.textOf
  | object =>
    cases tells with
    | @object _ members last names values =>
      obtain ⟨m,rfl⟩ := List.length_eq_one_iff.mp (by simpa using congrArg List.length names)
      obtain ⟨empty,_⟩ := List.forall₂_cons.mp values
      exact readsTagged (List.cons.inj names).1 empty.nothing last

end Instruction

structure Program.Codec (p : Program) : Prop where
  own : Encodes reader p.value p
  mixed : ∀ vs, List.Forall₂ Instruction.Form p.instructions vs → Encodes reader (.list vs) p

theorem Program.codec (p : Program) : p.Codec := by
  have mixed (vs : List Value) (forms : List.Forall₂ Instruction.Form p.instructions vs) :
      Encodes reader (.list vs) p := by
    refine encodesReads fun cs tells => readsMap Program.mk (readsList ?_)
    refine (ListOf.through forms (tellsList.mp tells)).imp fun i cs told => ?_
    obtain ⟨v,form,tells⟩ := told
    exact Instruction.readsForm form tells
  refine ⟨mixed _ ?_,mixed⟩
  rw [List.forall₂_map_right_iff,List.forall₂_same]
  exact fun i _ => .tag

namespace Position

def memberNames : List String := ["row","col"]

def Fits (p : Position) : String → List Char → Prop
  | "row" => fun cs => cs = writeNat p.row.toNat
  | "col" => fun cs => cs = writeNat p.col.toNat
  | _ => fun _ => False

def draft (p : Position) (names : List String) : Draft where
  row := if "row" ∈ names then some p.row else none
  col := if "col" ∈ names then some p.col else none

theorem drafts (p : Position) : Drafts fields p.Fits p.draft where
  set := by simp [fields,draft]
  read := by
    intro field inside names cs fits
    simp only [fields,List.mem_cons,List.not_mem_nil,or_false] at inside
    rcases inside with rfl | rfl
    · cases fits
      convert readsMap _ (readsWord _ p.row) using 1
      simp [draft]
    · cases fits
      convert readsMap _ (readsWord _ p.col) using 1
      simp [draft]

def record : Reader Draft :=
  Reader.record "struct Position" fields (some "struct Position with 2 elements") ⟨none,none⟩

theorem readComplete {p : Position} {cs : List Char} {names : List String}
    (taken : ∀ rest, record.run (tokens (cs ++ rest)) = .ok (p.draft names,tokens rest))
    (complete : ∀ name ∈ memberNames, name ∈ names) (before after : Gap) :
    reader.document (String.ofList (before.chars ++ (cs ++ after.chars))) = .ok p := by
  refine documentRead (fun rest _ => checkRun (taken rest) ?_) before after
  have row := complete "row" (by decide)
  have col := complete "col" (by decide)
  simp only [draft,Draft.finish,row,col,if_true]
  rfl

structure Codec (p : Position) : Prop where
  own : Encodes reader p.value p
  object : ∀ o : ObjectText, (∀ m ∈ o.members, m.Suits memberNames p.Fits) →
    (given memberNames o.members).Perm memberNames → reader.document o.text = .ok p
  list : Encodes reader (.list [.number p.row.toNat,.number p.col.toNat]) p

theorem readObject {p : Position} {o : ObjectText}
    (suits : ∀ m ∈ o.members, m.Suits memberNames p.Fits)
    (order : (given memberNames o.members).Perm memberNames) : reader.document o.text = .ok p := by
  have once : (given memberNames o.members).Nodup := order.nodup_iff.mpr (by decide)
  exact readComplete (objectRead p.drafts record rfl suits once o.last)
    (fun name known => order.mem_iff.mpr known) o.before o.after

theorem readList {p : Position} {s : String}
    (told : DocumentOf (.list [.number p.row.toNat,.number p.col.toNat]) s) :
    reader.document s = .ok p := by
  obtain ⟨l,rfl,each⟩ := listOfDocument told
  have fits : List.Forall₂ (fun name (i : Item) => p.Fits name i.value) memberNames l.items := by
    rw [List.forall₂_map_right_iff] at each
    obtain ⟨row,items,first,later,same⟩ := List.forall₂_cons_left_iff.mp each
    obtain ⟨col,items,second,last,rfl⟩ := List.forall₂_cons_left_iff.mp later
    cases List.forall₂_nil_left_iff.mp last
    rw [same]
    exact .cons first.natural (.cons second.natural .nil)
  exact readComplete (listRead p.drafts record rfl (List.append_nil fields).symm fits (.inl rfl) l.last)
    (fun _ known => known) l.before l.after

theorem readOwn {p : Position} {s : String} (told : DocumentOf p.value s) :
    reader.document s = .ok p := by
  have each : ∀ m ∈ [("row",Value.number p.row.toNat),("col",.number p.col.toNat)],
      ∀ cs, Tells m.2 cs → p.Fits m.1 cs := by
    intro m inside cs tells
    simp only [List.mem_cons,List.not_mem_nil,or_false] at inside
    rcases inside with rfl | rfl <;> exact tells.natural
  obtain ⟨o,rfl,names,fits⟩ := objectOfDocument told each
  obtain ⟨suits,all⟩ := membersKnown names fits
  exact readObject suits (List.Perm.of_eq all)

theorem codec (p : Position) : p.Codec where
  own := encodesAnyhow fun _ => readOwn
  object := fun _ => readObject
  list := encodesAnyhow fun _ => readList

end Position

namespace Track

theorem readsTold (t : Track) : Encodes reader t.value t :=
  encodesReads fun _ tells => readsTrack (tellsTrack.mp tells)

theorem trackSpelled : Spells Track.tokens Track.Written :=
  fun t => listSpelled (listSpelled boolSpelled) t.rows

theorem toldOfRead {t : Track} {s : String} (read : ofJson s = .ok t) : DocumentOf t.value s := by
  obtain ⟨before,after,cs,rfl,written⟩ := documentSpelled takesTokens trackSpelled read
  exact ⟨before,after,cs,tellsTrack.mpr written,rfl⟩

theorem arrayOnce {rows rows' : List (List Bool)} {s : String} (told : DocumentOf (array rows) s)
    (told' : DocumentOf (array rows') s) : rows = rows' := by
  have encodes (rows : List (List Bool)) :
      Encodes (Reader.list (Reader.list Reader.bool)) (array rows) rows := by
    refine encodesReads fun cs tells => readsList ?_
    refine (tellsArray.mp tells).imp fun row cs cells => readsList (cells.imp ?_)
    rintro b _ rfl
    exact readsBool b
  have read := (encodes rows).anyhow s told
  rw [(encodes rows').anyhow s told'] at read
  exact (Except.ok.inj read).symm

def cellIn (rows : List (List Bool)) (p : Position) : Bool :=
  ((rows[p.row.toNat]?.getD [])[p.col.toNat]?).getD false

theorem cellInRows (t : Track) (p : Position) : cellIn t.rows p = t.traversable p := by
  by_cases inside : p.inGrid = true
  · obtain ⟨row,col⟩ : p.row.toNat < Grid.rows ∧ p.col.toNat < Grid.cols := by
      simpa [Position.inGrid] using inside
    simp [cellIn,rows,row,col]
  · have off : t.traversable p = false := by
      rw [← Bool.not_eq_true]
      exact mt traversableInGrid inside
    rw [off,cellIn,rows]
    by_cases row : p.row.toNat < Grid.rows
    · have col : ¬ p.col.toNat < Grid.cols := by simpa [Position.inGrid,row] using inside
      simp [row,col]
    · simp [row]

theorem rowsOfCells {rows : List (List Bool)} (shaped : rows.map List.length = [5,5,5,5]) :
    (ofFn (cellIn rows)).rows = rows := by
  have count : rows.length = Grid.rows := by simpa [Grid.rows] using congrArg List.length shaped
  have widths : ∀ row ∈ rows, row.length = Grid.cols := by
    intro row inside
    have among : row.length ∈ rows.map List.length := List.mem_map_of_mem inside
    rw [shaped] at among
    simpa [Grid.cols] using among
  refine List.ext_getElem (by simp [Track.rows,count]) fun r _ inside => ?_
  have row : r < Grid.rows := count ▸ inside
  have width := widths rows[r] (List.getElem_mem inside)
  refine List.ext_getElem (by simp [Track.rows,width]) fun c _ within => ?_
  have col : c < Grid.cols := width ▸ within
  simp only [Track.rows,List.getElem_map,List.getElem_range,traversableOfFn]
  simp [Position.inGrid,cellIn,Grid.rowWord row,Grid.colWord col,row,col,inside,within]

structure Arrays (s : String) : Prop where
  only : ∀ t, ofJson s = .ok t → DocumentOf (array t.rows) s
  shaped : ∀ rows, DocumentOf (array rows) s →
    ((∃ t, ofJson s = .ok t) ↔ rows.map List.length = [5,5,5,5])
  placed : ∀ rows t, DocumentOf (array rows) s → ofJson s = .ok t →
    ∀ p, t.traversable p = cellIn rows p

theorem arrays (s : String) : Arrays s where
  only := fun t read => t.valueArray ▸ toldOfRead read
  shaped := by
    intro rows told
    constructor
    · rintro ⟨t,read⟩
      rw [arrayOnce told (t.valueArray ▸ toldOfRead read)]
      exact t.rowsShape
    · intro shaped
      refine ⟨ofFn (cellIn rows),(readsTold _).anyhow s ?_⟩
      rwa [valueArray,rowsOfCells shaped]
  placed := by
    intro rows t told read p
    rw [arrayOnce told (t.valueArray ▸ toldOfRead read),cellInRows]

end Track

theorem valuesReadBack :
    (∀ p : Program, p.Codec) ∧ (∀ p : Position, p.Codec) ∧
    (∀ t : Track, Encodes Track.reader t.value t) ∧ ∀ s, Track.Arrays s :=
  ⟨Program.codec,Position.codec,Track.readsTold,Track.arrays⟩

def farAway : Position := ⟨7,18446744073709551615⟩

/- The column comes first, and an unknown member is between the two. -/
def farAwayText : ObjectText where
  before := .none
  members := [writtenNamed .none .none "col" (writeNat farAway.col.toNat),
    writtenNamed .none blank "height" (listText [] .none),
    writtenNamed .none .none "row" (writeNat farAway.row.toNat)]
  last := .none
  after := .none

def upright : List (List Bool) := List.replicate 5 [true,false,false,false]

theorem mixedReadBack :
    Program.ofJson "[\"loop_start\",\x7b\"advance\":null\x7d,\"loop_end\"]" =
      .ok ⟨[.loopStart,.advance,.loopEnd]⟩ ∧
    Position.ofJson farAwayText.text = .ok farAway ∧
    ¬ ∃ t, Track.ofJson (Track.array upright).compactText = .ok t := by
  refine ⟨?_,?_,?_⟩
  · have forms : List.Forall₂ Instruction.Form [.loopStart,.advance,.loopEnd]
        [.text "loop_start",.object [("advance",.null)],.text "loop_end"] :=
      .cons .tag (.cons .object (.cons .tag .nil))
    exact ((valuesReadBack.1 ⟨_⟩).mixed _ forms).compact
  · refine (valuesReadBack.2.1 farAway).object farAwayText (fun m inside => ?_) ?_
    · simp only [farAwayText,List.mem_cons,List.not_mem_nil,or_false] at inside
      rcases inside with rfl | rfl | rfl
      · exact ⟨fun _ => rfl,fun unknown => absurd (by decide) unknown⟩
      · exact ⟨fun known => absurd known (by decide),fun _ => .list (by simp)⟩
      · exact ⟨fun _ => rfl,fun unknown => absurd (by decide) unknown⟩
    · exact List.Perm.swap ..
  · rw [(valuesReadBack.2.2.2 _).shaped upright (compactDocument _)]
    decide

end GridRobot
