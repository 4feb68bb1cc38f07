import GridRobot.Json.Reader
import GridRobot.Proofs.Json.Skipping

/-! Reading values. A reader reads a text as a value if it takes the tokens of the text off the
front of any others and gives back that value; arrays are read item by item. -/
namespace GridRobot.Json

def Reads {α : Type} (r : Reader α) (a : α) (cs : List Char) : Prop :=
  ∀ rest, Ends rest → ∃ t ts, tokens (cs ++ rest) = t :: ts ∧ t ≠ .closeList ∧
    r.run (t :: ts) = .ok (a,tokens rest)

variable {α β : Type} {r : Reader α}

theorem Reads.run {a : α} {cs rest : List Char} (reads : Reads r a cs) (ends : Ends rest) :
    r.run (tokens (cs ++ rest)) = .ok (a,tokens rest) := by
  obtain ⟨t,ts,cut,_,read⟩ := reads rest ends
  rw [cut,read]

theorem readsMap (f : α → β) {a : α} {cs : List Char} (reads : Reads r a cs) :
    Reads (r.map f) (f a) cs := by
  intro rest ends
  obtain ⟨t,ts,cut,begins,read⟩ := reads rest ends
  refine ⟨t,ts,cut,begins,?_⟩
  simp only [Reader.map,read,Except.map]

theorem readsWord (expected : String) (n : UInt64) :
    Reads (Reader.word expected) n (writeNat n.toNat) := by
  intro rest ends
  exact ⟨_,_,tokensNatural n ends,by simp,rfl⟩

theorem readsBool (b : Bool) : Reads Reader.bool b (writeBool b) := by
  intro rest _
  exact ⟨_,_,tokensBool b rest,by simp,by cases b <;> rfl⟩

theorem readsNull (expected : String) : Reads (Reader.null expected) () "null".toList := by
  intro rest _
  exact ⟨_,_,tokensNull rest,by simp,rfl⟩

theorem tokensTextOf {s : String} {cs : List Char} (text : TextOf s cs) (rest : List Char) :
    tokens (cs ++ rest) = .text (.ok s.toList) (.ok ()) :: tokens rest := by
  obtain ⟨quoted,means,rfl⟩ := text
  rw [List.cons_append,List.append_assoc]
  exact tokensMeans means rest

theorem readsText (expected : String) {s : String} {cs : List Char} (text : TextOf s cs) :
    Reads (Reader.text expected) s cs := by
  intro rest _
  have read : (Reader.text expected).run (.text (.ok s.toList) (.ok ()) :: tokens rest) =
      .ok (String.ofList s.toList,tokens rest) := rfl
  rw [String.ofList_toList] at read
  exact ⟨_,_,tokensTextOf text rest,by simp,read⟩

theorem readsSkipped {cs : List Char} (form : ValueForm cs) : Reads Reader.skipped () cs := by
  intro rest ends
  have passed := skipValue form ends
  -- nothing passes as a value that begins with a closing bracket
  cases cut : tokens (cs ++ rest) with
  | nil =>
    rw [cut] at passed
    contradiction
  | cons t ts =>
    rw [cut] at passed
    refine ⟨t,ts,rfl,?_,congrArg (Except.map ((),·)) passed⟩
    rintro rfl
    contradiction

theorem readsItem {i : Item} {a : α} (reads : Reads r a i.value) : Reads r a i.text := by
  intro rest ends
  have inner := reads (i.after.chars ++ rest) (gapEnds ends)
  rw [tokensGap] at inner
  rw [Item.text,List.append_assoc,List.append_assoc,tokensGap]
  exact inner

/-! Lists of items, from which a reader takes one after the other. -/

section Items
variable (last : Gap) (rest : List Char)

theorem nextItemTaken {first : Bool} {a : α} {part : List Char} (reads : Reads r a part)
    (parts : List (List Char)) :
    ∃ ts, nextItem first (tokens (joined first (part :: parts) ++ (last.chars ++ ']' :: rest))) =
        .ok (some ts) ∧
      r.run ts = .ok (a,tokens (joined false parts ++ (last.chars ++ ']' :: rest))) := by
  obtain ⟨t,ts,cut,begins,read⟩ := reads (joined false parts ++ (last.chars ++ ']' :: rest))
    (laterEnds parts (.inl rfl) rest)
  refine ⟨t :: ts,?_,read⟩
  cases first with
  | true =>
    rw [joined,intercalateCons,List.append_assoc,show parts.flatMap (',' :: ·) = joined false parts
      from rfl,cut]
    cases t <;> first | rfl | contradiction
  | false =>
    rw [joined,List.flatMap_cons,List.cons_append,List.cons_append,tokensMark rfl,List.append_assoc,
      show parts.flatMap (',' :: ·) = joined false parts from rfl,cut]
    cases t <;> first | rfl | contradiction

theorem tokensLast (first : Bool) {c : Char} {t : Token} (close : mark? c = some t) :
    tokens (joined first [] ++ (last.chars ++ c :: rest)) = t :: tokens rest := by
  have nothing : joined first [] = [] := by cases first <;> rfl
  rw [nothing,List.nil_append,tokensGap,tokensMark close]

theorem itemsTaken (size : Nat) {as : List α} {parts : List (List Char)}
    (each : List.Forall₂ (Reads r) as parts) {n : Nat} (enough : n ≤ parts.length) :
    ∃ v : Vector α n, v.toList = as.take n ∧
      Reader.itemsExactly r size n (tokens (joined true parts ++ (last.chars ++ ']' :: rest))) =
        .ok (v,tokens (joined (n == 0) (parts.drop n) ++ (last.chars ++ ']' :: rest))) := by
  induction n with
  | zero => exact ⟨#v[],rfl,rfl⟩
  | succ n ih =>
    obtain ⟨v,same,taken⟩ := ih (Nat.le_of_succ_le enough)
    have inside : n < as.length := by rw [each.length_eq]; exact enough
    have reads : Reads r as[n] parts[n] := each.get inside enough
    obtain ⟨ts,next,read⟩ := @nextItemTaken _ _ last rest (n == 0) _ _ reads (parts.drop (n + 1))
    rw [← List.drop_eq_getElem_cons enough] at next
    refine ⟨v.push as[n],?_,?_⟩
    · rw [Vector.toList_push,same,List.take_succ_eq_append_getElem inside]
    · simp only [Reader.itemsExactly,taken,next,read,bind,Except.bind,pure,Except.pure]
      rfl

theorem itemsTurn (first : Bool) (ts : List Token) : Reader.items r first ts =
    match nextItem first ts with
    | .error h => .error h
    | .ok none => .ok ([],ts)
    | .ok (some ts') => (r.run ts').bind fun (a,rest) =>
        (Reader.items r false rest).map fun (as,last) => (a :: as,last) := by
  conv => lhs; rw [Reader.items.eq_def]
  split
  · rename_i next
    rw [next]
  · rename_i next
    rw [next]
  · rename_i ts' next
    rw [next]
    change _ = (r.run ts').bind _
    split
    · rename_i stopped
      rw [stopped]
      rfl
    · rename_i read
      rw [read]
      rfl

theorem itemsRead (first : Bool) {as : List α} {parts : List (List Char)}
    (each : List.Forall₂ (Reads r) as parts) :
    Reader.items r first (tokens (joined first parts ++ (last.chars ++ ']' :: rest))) =
      .ok (as,.closeList :: tokens rest) := by
  induction each generalizing first with
  | nil =>
    rw [tokensLast last rest first rfl,itemsTurn]
    rfl
  | @cons a part as parts reads _ ih =>
    obtain ⟨ts,next,read⟩ := @nextItemTaken _ _ last rest first _ _ reads parts
    rw [itemsTurn,next]
    simp only [read,ih false,Except.bind,Except.map]

end Items

theorem tokensList (items : List Item) (last : Gap) (rest : List Char) :
    tokens (listText items last ++ rest) = .openList ::
      tokens (joined true (items.map Item.text) ++ (last.chars ++ ']' :: rest)) := by
  simp only [listText,List.cons_append,List.append_assoc,List.nil_append]
  exact tokensMark rfl _

theorem readsItems {as : List α} {items : List Item}
    (each : List.Forall₂ (Reads r) as (items.map Item.value)) :
    List.Forall₂ (Reads r) as (items.map Item.text) := by
  rw [List.forall₂_map_right_iff] at each ⊢
  exact each.imp fun _ _ reads => readsItem reads

theorem readsList {as : List α} {cs : List Char} (listed : ListOf (Reads r) as cs) :
    Reads (Reader.list r) as cs := by
  obtain ⟨items,last,rfl,each⟩ := listed
  intro rest _
  have taken := itemsRead last rest true (readsItems each)
  refine ⟨_,_,tokensList items last rest,by simp,?_⟩
  simp only [Reader.list,taken,endList,bind,Except.bind,pure,Except.pure]

theorem readsArray {n : Nat} {v : Vector α n} {cs : List Char} (listed : ListOf (Reads r) v.toList cs) :
    Reads (Reader.array r n) v cs := by
  obtain ⟨items,last,rfl,each⟩ := listed
  intro rest _
  have parts := readsItems each
  have length : n = (items.map Item.text).length := by
    rw [← parts.length_eq,Vector.length_toList]
  obtain ⟨w,same,taken⟩ := itemsTaken last rest n parts (Nat.le_of_eq length)
  have whole : w = v := by
    refine Vector.toList_inj.mp ?_
    rw [same,List.take_of_length_le (Nat.le_of_eq Vector.length_toList)]
  have nothing : (items.map Item.text).drop n = [] := by rw [length,List.drop_length]
  rw [nothing,tokensLast last rest (n == 0) rfl,whole] at taken
  refine ⟨_,_,tokensList items last rest,by simp,?_⟩
  simp only [Reader.array,taken,endList,bind,Except.bind,pure,Except.pure]

end GridRobot.Json
