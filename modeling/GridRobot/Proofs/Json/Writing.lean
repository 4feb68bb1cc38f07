import GridRobot.Proofs.Json.Tokens

/-! Written values. Every character is written so that it is meant again: those that cannot stand
in a string are escaped. A list or an object has its items or members in order, in one line or each
on a line of its own; either way the text tells the value. -/
namespace GridRobot.Json

/- The two digits that an escaped control character needs come after two zeros. -/
theorem escapeControlQuad {c : Char} (control : c.toNat < 0x20) :
    ∃ q, escapeControl c = '\\' :: 'u' :: q ∧ Quad q c.toNat := by
  have all : ∀ n < 0x20, (escapeControl (Char.ofNat n)).take 2 = ['\\','u'] ∧
      ((escapeControl (Char.ofNat n)).drop 2).map Text.hexDigit? =
        [some 0,some 0,some (n / 16),some (n % 16)] := by decide
  obtain ⟨mark,digits⟩ := all c.toNat control
  rw [Char.ofNat_toNat] at mark digits
  refine ⟨(escapeControl c).drop 2,?_,_,_,_,_,digits,by omega⟩
  conv => lhs; rw [← List.take_append_drop 2 (escapeControl c),mark]
  rfl

theorem escapeMeans {c : Char} {cs s : List Char} (later : Means cs s) :
    Means (escape c ++ cs) (c :: s) := by
  unfold escape
  split
  · exact .short (by decide) later
  · exact .short (by decide) later
  · exact .short (by decide) later
  · exact .short (by decide) later
  · exact .short (by decide) later
  · exact .short (by decide) later
  · exact .short (by decide) later
  · rename_i quote backslash _ _ _ _ _
    split
    · rename_i control
      obtain ⟨q,escaped,quad⟩ := escapeControlQuad control
      have means := Means.unit quad (.inl (by omega)) later
      rw [Char.ofNat_toNat] at means
      rw [escaped]
      exact means
    · rename_i large
      exact .plain ⟨quote,backslash,Nat.le_of_not_lt large⟩ later

theorem meansEscaped (s : List Char) : Means (s.flatMap escape) s := by
  induction s with
  | nil => exact .done
  | cons c s ih => exact escapeMeans ih

theorem textWritten (s : String) : TextOf s (writeText s.toList) :=
  ⟨_,meansEscaped s.toList,by rw [writeText,List.cons_append]⟩

/-! Lists and objects, in one line or line by line. -/

def line (depth : Nat) : Gap where
  chars := Value.newLine depth
  space := by
    intro c inside
    rcases List.mem_cons.mp inside with rfl | blank
    · decide
    · rw [List.eq_of_mem_replicate blank]
      decide

def blank : Gap := ⟨[' '],by simp [spaces]⟩

def writtenItem (before : Gap) (value : List Char) : Item := ⟨before,value,.none⟩

def writtenNamed (before afterColon : Gap) (name : String) (value : List Char) : Named where
  before
  key := name.toList.flatMap escape
  beforeColon := .none
  afterColon
  value
  after := .none
  name
  means := meansEscaped name.toList

theorem writtenItemText (before : Gap) (value : List Char) :
    (writtenItem before value).text = before.chars ++ value := by
  simp only [Item.text,writtenItem,Gap.none,List.append_nil]

theorem writtenNamedText (before afterColon : Gap) (name : String) (value : List Char) :
    (writtenNamed before afterColon name value).text =
      before.chars ++ (writeText name.toList ++ ':' :: (afterColon.chars ++ value)) := by
  simp only [Member.text,writtenNamed,Gap.none,writeText,List.cons_append,List.append_assoc,
    List.nil_append,List.append_nil]

theorem laterParts {β : Type} (later : List β → List Char) (part : β → List Char)
    (done : later [] = []) (more : ∀ b bs, later (b :: bs) = ',' :: (part b ++ later bs))
    (bs : List β) : later bs = (bs.map part).flatMap (',' :: ·) := by
  induction bs with
  | nil => exact done
  | cons b bs ih => rw [more,ih,List.map_cons,List.flatMap_cons,List.cons_append]

section Parts
variable {β : Type} {item : β → Item} {named : β → Named}

theorem itemsListed (b : β) (bs : List β) (last : Gap) : listText ((b :: bs).map item) last =
    '[' :: ((item b).text ++ ((bs.map fun b => (item b).text).flatMap (',' :: ·) ++
      (last.chars ++ [']']))) := by
  rw [listText,List.map_map,List.map_cons,intercalateCons,List.append_assoc]
  rfl

theorem membersListed (b : β) (bs : List β) (last : Gap) :
    objectText (((b :: bs).map named).map Named.toMember) last =
      '{' :: ((named b).text ++ ((bs.map fun b => (named b).text).flatMap (',' :: ·) ++
        (last.chars ++ ['}']))) := by
  rw [objectText,List.map_map,List.map_map,List.map_cons,intercalateCons,List.append_assoc]
  rfl

end Parts

def spreadItem (depth : Nat) (v : Value) : Item := writtenItem (line depth) (v.spread depth)

def spreadNamed (depth : Nat) (m : String × Value) : Named :=
  writtenNamed (line depth) blank m.1 (m.2.spread depth)

def compactItem (v : Value) : Item := writtenItem .none v.compact

def compactNamed (m : String × Value) : Named := writtenNamed .none .none m.1 m.2.compact

theorem spreadList (depth : Nat) (v : Value) (vs : List Value) :
    (Value.list (v :: vs)).spread depth =
      listText ((v :: vs).map (spreadItem (depth + 1))) (line depth) := by
  have later := laterParts (Value.spreadItems (depth + 1))
    (fun v => (spreadItem (depth + 1) v).text) rfl
    (fun v vs => by simp [Value.spreadItems,spreadItem,writtenItemText,line]) vs
  rw [itemsListed]
  simp [Value.spread,later,spreadItem,writtenItemText,line]

theorem spreadObject (depth : Nat) (m : String × Value) (ms : List (String × Value)) :
    (Value.object (m :: ms)).spread depth =
      objectText (((m :: ms).map (spreadNamed (depth + 1))).map Named.toMember) (line depth) := by
  have later := laterParts (Value.spreadMembers (depth + 1))
    (fun m => (spreadNamed (depth + 1) m).text) rfl
    (fun ⟨key,v⟩ ms => by
      simp [Value.spreadMembers,Value.spreadMember,spreadNamed,writtenNamedText,line,blank]) ms
  obtain ⟨key,v⟩ := m
  rw [membersListed]
  simp [Value.spread,Value.spreadMember,later,spreadNamed,writtenNamedText,line,blank]

theorem compactList (v : Value) (vs : List Value) :
    (Value.list (v :: vs)).compact = listText ((v :: vs).map compactItem) .none := by
  have later := laterParts Value.compactItems (fun v => (compactItem v).text) rfl
    (fun v vs => by simp [Value.compactItems,compactItem,writtenItemText,Gap.none]) vs
  rw [itemsListed]
  simp [Value.compact,later,compactItem,writtenItemText,Gap.none]

theorem compactObject (m : String × Value) (ms : List (String × Value)) :
    (Value.object (m :: ms)).compact =
      objectText (((m :: ms).map compactNamed).map Named.toMember) .none := by
  have later := laterParts Value.compactMembers (fun m => (compactNamed m).text) rfl
    (fun ⟨key,v⟩ ms => by
      simp [Value.compactMembers,Value.compactMember,compactNamed,writtenNamedText,Gap.none]) ms
  obtain ⟨key,v⟩ := m
  rw [membersListed]
  simp [Value.compact,Value.compactMember,later,compactNamed,writtenNamedText,Gap.none]

theorem tellsItems {item : Value → Item} {vs : List Value} (last : Gap)
    (each : ∀ v ∈ vs, Tells v (item v).value) : Tells (.list vs) (listText (vs.map item) last) := by
  refine .list ?_
  rwa [List.map_map,List.forall₂_map_right_iff,List.forall₂_same]

theorem tellsMembers {named : String × Value → Named} {ms : List (String × Value)} (last : Gap)
    (names : ∀ m, (named m).name = m.1) (each : ∀ m ∈ ms, Tells m.2 (named m).value) :
    Tells (.object ms) (objectText ((ms.map named).map Named.toMember) last) := by
  refine .object (by simp [Function.comp_def,names]) ?_
  rwa [List.map_map,List.forall₂_map_right_iff,List.forall₂_map_left_iff,List.forall₂_same]

theorem Value.fromParts {P : Value → Prop} (null : P .null) (bool : ∀ b, P (.bool b))
    (number : ∀ n, P (.number n)) (text : ∀ s, P (.text s))
    (list : ∀ vs, (∀ v ∈ vs, P v) → P (.list vs))
    (object : ∀ ms : List (String × Value), (∀ m ∈ ms, P m.2) → P (.object ms)) : (v : Value) → P v
  | .null => null
  | .bool b => bool b
  | .number n => number n
  | .text s => text s
  | .list vs => list vs fun v _ => fromParts null bool number text list object v
  | .object ms => object ms fun m _ => fromParts null bool number text list object m.2
termination_by v => sizeOf v
decreasing_by
  · have smaller := List.sizeOf_lt_of_mem ‹v ∈ vs›
    simp only [Value.list.sizeOf_spec]
    omega
  · have smaller := List.sizeOf_lt_of_mem ‹m ∈ ms›
    obtain ⟨key,v⟩ := m
    simp only [Value.object.sizeOf_spec,Prod.mk.sizeOf_spec] at smaller ⊢
    omega

theorem spreadTells (v : Value) (depth : Nat) : Tells v (v.spread depth) := by
  induction v using Value.fromParts generalizing depth with
  | null => exact .null
  | bool b => exact .bool b
  | number n => exact .number n
  | text s => exact .text (textWritten s)
  | list vs each =>
    cases vs with
    | nil => exact @Tells.list [] [] .none .nil
    | cons v vs =>
      rw [spreadList]
      exact tellsItems _ fun w inside => each w inside (depth + 1)
  | object ms each =>
    cases ms with
    | nil => exact @Tells.object [] [] .none rfl .nil
    | cons m ms =>
      rw [spreadObject]
      exact tellsMembers _ (fun _ => rfl) fun n inside => each n inside (depth + 1)

theorem compactTells (v : Value) : Tells v v.compact := by
  induction v using Value.fromParts with
  | null => exact .null
  | bool b => exact .bool b
  | number n => exact .number n
  | text s => exact .text (textWritten s)
  | list vs each =>
    cases vs with
    | nil => exact @Tells.list [] [] .none .nil
    | cons v vs =>
      rw [compactList]
      exact tellsItems _ each
  | object ms each =>
    cases ms with
    | nil => exact @Tells.object [] [] .none rfl .nil
    | cons m ms =>
      rw [compactObject]
      exact tellsMembers _ (fun _ => rfl) each

theorem membersFit {ms : List (String × Value)} {members : List Named}
    {fits : String → List Char → Prop} (names : members.map Named.name = ms.map Prod.fst)
    (values : List.Forall₂ Tells (ms.map Prod.snd) (members.map fun m => m.value))
    (each : ∀ m ∈ ms, ∀ cs, Tells m.2 cs → fits m.1 cs) : ∀ n ∈ members, fits n.name n.value := by
  induction members generalizing ms with
  | nil => simp
  | cons n members ih =>
    cases ms with
    | nil => contradiction
    | cons m ms =>
      obtain ⟨name,names⟩ := List.cons.inj names
      obtain ⟨first,later⟩ := List.forall₂_cons.mp values
      refine List.forall_mem_cons.mpr ⟨?_,?_⟩
      · rw [name]
        exact each m List.mem_cons_self _ first
      · exact ih names later fun m inside => each m (List.mem_cons_of_mem _ inside)

theorem documentOfTells {v : Value} {cs : List Char} (tells : Tells v cs) :
    DocumentOf v (String.ofList cs) :=
  ⟨.none,.none,cs,tells,by rw [Gap.none,List.nil_append,List.append_nil]⟩

theorem spreadDocument (v : Value) : DocumentOf v v.spreadText := documentOfTells (spreadTells v 0)

theorem compactDocument (v : Value) : DocumentOf v v.compactText := documentOfTells (compactTells v)

theorem objectOfDocument {ms : List (String × Value)} {s : String}
    {fits : String → List Char → Prop} (told : DocumentOf (.object ms) s)
    (each : ∀ m ∈ ms, ∀ cs, Tells m.2 cs → fits m.1 cs) :
    ∃ o : ObjectText, s = o.text ∧ o.members.map (·.name) = ms.map Prod.fst ∧
      ∀ m ∈ o.members, fits m.name m.value := by
  obtain ⟨before,after,cs,tells,rfl⟩ := told
  cases tells with
  | @object _ members last names values =>
    exact ⟨⟨before,members,last,after⟩,rfl,names,membersFit names values each⟩

theorem listOfDocument {vs : List Value} {s : String} (told : DocumentOf (.list vs) s) :
    ∃ l : ListText, s = l.text ∧ List.Forall₂ Tells vs (l.items.map Item.value) := by
  obtain ⟨before,after,cs,tells,rfl⟩ := told
  cases tells with
  | @list _ items last each => exact ⟨⟨before,items,last,after⟩,rfl,each⟩

end GridRobot.Json
