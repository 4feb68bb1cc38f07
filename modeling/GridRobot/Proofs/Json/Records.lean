import GridRobot.Json.Record
import GridRobot.Proofs.Json.Reading
import Mathlib.Data.List.Duplicate
import Mathlib.Data.List.Induction

/-! Reading records. The draft of a record depends on which of its members have come, and not
on their order or on what stands between them. So a record is described by its drafts, one for
each collection of names, and by the texts that fit each name. -/
namespace GridRobot.Json

variable {σ : Type}

structure Drafts (fields : List (RecordField σ)) (fits : String → List Char → Prop)
    (draft : List String → σ) : Prop where
  set : ∀ f ∈ fields, ∀ names, f.isSet (draft names) = true ↔ f.name ∈ names
  read : ∀ f ∈ fields, ∀ names cs, fits f.name cs →
    Reads (f.read (draft names)) (draft (names ++ [f.name])) cs

def fieldNames (fields : List (RecordField σ)) : List String := fields.map (·.name)

def Named.Suits (known : List String) (fits : String → List Char → Prop) (m : Named) : Prop :=
  (m.name ∈ known → fits m.name m.value) ∧ (m.name ∉ known → ValueForm m.value)

def given (known : List String) (members : List Named) : List String :=
  (members.map (·.name)).filter (· ∈ known)

theorem givenCons (known : List String) (m : Named) (members : List Named) :
    given known (m :: members) =
      if m.name ∈ known then m.name :: given known members else given known members := by
  simp only [given,List.map_cons,List.filter_cons,decide_eq_true_eq]

theorem membersKnown {known : List String} {fits : String → List Char → Prop} {members : List Named}
    (names : members.map (·.name) = known) (fit : ∀ m ∈ members, fits m.name m.value) :
    (∀ m ∈ members, m.Suits known fits) ∧ given known members = known := by
  constructor
  · intro m inside
    refine ⟨fun _ => fit m inside,fun unknown => absurd ?_ unknown⟩
    rw [← names]
    exact List.mem_map_of_mem inside
  · rw [given,names]
    exact List.filter_eq_self.mpr fun name known => decide_eq_true known

theorem firstRepeated {known : List String} {members : List Named}
    (again : ¬ (given known members).Nodup) :
    ∃ before m later, members = before ++ m :: later ∧ (given known before).Nodup ∧
      m.name ∈ given known before := by
  induction members using List.reverseRecOn with
  | nil => exact absurd List.nodup_nil again
  | append_singleton members m ih =>
    by_cases once : (given known members).Nodup
    · refine ⟨members,m,[],rfl,once,?_⟩
      by_contra fresh
      refine again ?_
      simp only [given,List.map_append,List.filter_append] at *
      refine List.nodup_append.mpr ⟨once,(List.nodup_singleton m.name).filter _,?_⟩
      rintro name old _ new rfl
      simp only [List.map_cons,List.map_nil,List.mem_filter,List.mem_singleton] at new
      exact fresh (new.1 ▸ old)
    · obtain ⟨before,n,later,rfl,first⟩ := ih once
      exact ⟨before,n,later ++ [m],by simp,first⟩

theorem findField {fields : List (RecordField σ)} {name : String} :
    (name ∈ fieldNames fields → ∃ f ∈ fields, f.name = name ∧
      fields.find? (·.name.toList == name.toList) = some f) ∧
    (name ∉ fieldNames fields → fields.find? (·.name.toList == name.toList) = none) := by
  constructor
  · intro known
    obtain ⟨f,inside,named⟩ := List.mem_map.mp known
    cases found : fields.find? (·.name.toList == name.toList) with
    | none =>
      have missed := List.find?_eq_none.mp found f inside
      exact absurd (by simp [named]) missed
    | some g =>
      have same := List.find?_some found
      exact ⟨g,List.mem_of_find?_eq_some found,String.toList_inj.mp (beq_iff_eq.mp same),rfl⟩
  · intro unknown
    refine List.find?_eq_none.mpr fun f inside same => unknown ?_
    rw [← String.toList_inj.mp (beq_iff_eq.mp same)]
    exact List.mem_map.mpr ⟨f,inside,rfl⟩

/-! Members of an object. -/

def Member.afterKey (m : Member) : List Char :=
  m.beforeColon.chars ++ ':' :: (m.afterColon.chars ++ (m.value ++ m.after.chars))

theorem tokensNamed (m : Named) (rest : List Char) :
    tokens (m.text ++ rest) = .text (.ok m.name.toList) (.ok ()) :: tokens (m.afterKey ++ rest) := by
  simp only [Member.text,Member.afterKey,List.append_assoc,List.cons_append]
  rw [tokensGap,tokensMeans m.means]

theorem readsMember {r : Reader σ} {a : σ} {m : Member} (reads : Reads r a m.value)
    {rest : List Char} (ends : Ends rest) :
    (Reader.memberValue r).run (tokens (m.afterKey ++ rest)) = .ok (a,tokens rest) := by
  have cut : tokens (m.afterKey ++ rest) = .colon :: tokens (m.value ++ (m.after.chars ++ rest)) := by
    simp only [Member.afterKey,List.append_assoc,List.cons_append]
    rw [tokensGap,tokensMark rfl,tokensGap]
  have read := reads.run (@gapEnds m.after _ ends)
  rw [tokensGap] at read
  rw [cut]
  exact read

theorem nextKeyNamed (first : Bool) (m : Named) (parts : List (List Char)) (rest : List Char) :
    nextKey first (tokens (joined first (m.text :: parts) ++ rest)) =
      .ok (some (m.name.toList,tokens (m.afterKey ++ (joined false parts ++ rest)))) := by
  cases first with
  | true =>
    rw [joined,intercalateCons,List.append_assoc,tokensNamed]
    rfl
  | false =>
    rw [joined,List.flatMap_cons,List.cons_append,List.cons_append,List.append_assoc,
      tokensMark rfl,tokensNamed]
    rfl

section Steps
variable {fields : List (RecordField σ)} {first : Bool} {d d' : σ} {ts after rest : List Token}
  {key : List Char}

theorem membersTurn : Reader.members fields first d ts =
    match nextKey first ts with
    | .error h => .error h
    | .ok none => .ok (d,ts)
    | .ok (some (key,after)) => (Reader.member fields d key after).bind fun r =>
        (r.run after).bind fun (d',rest) => Reader.members fields false d' rest := by
  conv => lhs; rw [Reader.members.eq_def]
  split
  · rename_i next
    rw [next]
  · rename_i next
    rw [next]
  · rename_i key after next
    rw [next]
    dsimp only
    split
    · rename_i refused
      rw [refused]
      rfl
    · rename_i r chosen
      rw [chosen]
      change _ = (r.run after).bind _
      split
      · rename_i stopped
        rw [stopped]
        rfl
      · rename_i read
        rw [read]
        rfl

theorem membersStep {r : Reader σ} (next : nextKey first ts = .ok (some (key,after)))
    (chosen : Reader.member fields d key after = .ok r) (read : r.run after = .ok (d',rest)) :
    Reader.members fields first d ts = Reader.members fields false d' rest := by
  rw [membersTurn,next]
  simp only [chosen,read,Except.bind]

end Steps

section Members
variable {fields : List (RecordField σ)} {fits : String → List Char → Prop}
  {draft : List String → σ} (drafts : Drafts fields fits draft) (last : Gap) (rest : List Char)
include drafts

theorem memberTaken {names : List String} {m : Named} (suits : m.Suits (fieldNames fields) fits)
    (fresh : m.name ∈ fieldNames fields → m.name ∉ names) {rest : List Char} (ends : Ends rest)
    (after : List Token) :
    ∃ r, Reader.member fields (draft names) m.name.toList after = .ok r ∧
      r.run (tokens (m.afterKey ++ rest)) =
        .ok (draft (if m.name ∈ fieldNames fields then names ++ [m.name] else names),
          tokens rest) := by
  unfold Reader.member
  by_cases known : m.name ∈ fieldNames fields
  · obtain ⟨f,inside,named,found⟩ := findField.1 known
    have unset : f.isSet (draft names) = false := by
      rw [← Bool.not_eq_true,drafts.set f inside,named]
      exact fresh known
    have fitting : fits f.name m.value := by rw [named]; exact suits.1 known
    have reads := drafts.read f inside names m.value fitting
    rw [named] at reads
    refine ⟨Reader.memberValue (f.read (draft names)),?_,?_⟩
    · simp only [found,unset,Bool.false_eq_true,if_false]
    · rw [if_pos known]
      exact readsMember reads ends
  · have reads := readsMap (fun _ => draft names) (readsSkipped (suits.2 known))
    refine ⟨Reader.memberValue (Reader.skipped.map fun _ => draft names),?_,?_⟩
    · simp only [findField.2 known]
    · rw [if_neg known]
      exact readsMember reads ends

theorem membersTaken {members : List Named} (suits : ∀ m ∈ members, m.Suits (fieldNames fields) fits)
    (names : List String) (once : (names ++ given (fieldNames fields) members).Nodup) (first : Bool)
    (parts : List (List Char)) :
    Reader.members fields first (draft names)
        (tokens (joined first (members.map (·.text) ++ parts) ++ (last.chars ++ '}' :: rest))) =
      Reader.members fields (first && members.isEmpty)
        (draft (names ++ given (fieldNames fields) members))
        (tokens (joined (first && members.isEmpty) parts ++ (last.chars ++ '}' :: rest))) := by
  induction members generalizing names first with
  | nil => simp [given]
  | cons m members ih =>
    have others : ∀ m ∈ members, m.Suits (fieldNames fields) fits :=
      fun n inside => suits n (List.mem_cons_of_mem _ inside)
    have more : names ++ given (fieldNames fields) (m :: members) =
        (if m.name ∈ fieldNames fields then names ++ [m.name] else names) ++
          given (fieldNames fields) members := by
      rw [givenCons]
      split <;> simp
    have fresh : m.name ∈ fieldNames fields → m.name ∉ names := by
      intro known old
      rw [givenCons,if_pos known] at once
      exact (List.nodup_append.mp once).2.2 _ old _ List.mem_cons_self rfl
    rw [more] at once ⊢
    obtain ⟨r,chosen,read⟩ := memberTaken drafts (suits m List.mem_cons_self) fresh
      (laterEnds (members.map (·.text) ++ parts) (.inr rfl) rest) _
    rw [List.map_cons,List.cons_append,membersStep (nextKeyNamed first m _ _) chosen read]
    exact (ih others _ once false).trans (by simp)

theorem membersRead {members : List Named} (suits : ∀ m ∈ members, m.Suits (fieldNames fields) fits)
    (once : (given (fieldNames fields) members).Nodup) :
    Reader.members fields true (draft [])
        (tokens (joined true (members.map (·.text)) ++ (last.chars ++ '}' :: rest))) =
      .ok (draft (given (fieldNames fields) members),.closeObject :: tokens rest) := by
  have taken := membersTaken drafts last rest suits [] once true []
  rw [List.append_nil,tokensLast last rest _ rfl] at taken
  rw [taken,membersTurn]
  rfl

/- What comes after the key of a member that is there already does not matter. -/
theorem membersRepeated {members : List Named} {m : Named}
    (suits : ∀ m ∈ members, m.Suits (fieldNames fields) fits)
    (once : (given (fieldNames fields) members).Nodup)
    (again : m.name ∈ given (fieldNames fields) members) (parts : List (List Char)) :
    ∃ after, Reader.members fields true (draft [])
        (tokens (joined true (members.map (·.text) ++ m.text :: parts) ++
          (last.chars ++ '}' :: rest))) = .error (Reader.repeated m.name after) := by
  rw [membersTaken drafts last rest suits [] once true]
  have known : m.name ∈ fieldNames fields := of_decide_eq_true (List.mem_filter.mp again).2
  obtain ⟨f,inside,named,found⟩ := findField.1 known
  have set : f.isSet (draft (given (fieldNames fields) members)) = true := by
    rw [drafts.set f inside,named]
    exact again
  rw [membersTurn,nextKeyNamed]
  simp only [Reader.member,found,List.nil_append,set,if_true,named,Except.bind]
  exact ⟨_,rfl⟩

/-! Records as lists. -/

theorem listedTaken {wanted : Option String} {taken left : List (RecordField σ)} {items : List Item}
    (each : List.Forall₂ (fun f (i : Item) => fits f.name i.value) taken items)
    (inside : ∀ f ∈ taken, f ∈ fields) (optional : left = [] ∨ wanted = none) (n : Nat)
    (names : List String) :
    Reader.listed wanted n (taken ++ left) (draft names)
        (tokens (joined (n == 0) (items.map Item.text) ++ (last.chars ++ ']' :: rest))) =
      .ok (draft (names ++ fieldNames taken),.closeList :: tokens rest) := by
  induction each generalizing n names with
  | nil =>
    rw [List.map_nil,tokensLast last rest _ rfl]
    cases left with
    | nil => simp [Reader.listed,fieldNames]
    | cons f left =>
      obtain rfl : wanted = none := by simpa using optional
      simp [Reader.listed,nextItem,fieldNames,bind,Except.bind]
  | @cons f i taken items fitting each ih =>
    have reads := drafts.read f (inside f List.mem_cons_self) names _ fitting
    obtain ⟨ts,next,read⟩ := @nextItemTaken _ _ last rest (n == 0) _ _ (readsItem reads)
      (items.map Item.text)
    have later := ih (fun f more => inside f (List.mem_cons_of_mem _ more)) (n + 1)
      (names ++ [f.name])
    rw [List.append_assoc] at later
    simp only [List.cons_append,Reader.listed,List.map_cons,next,read,bind,Except.bind]
    exact later

end Members

/-! Whole records. -/

theorem tokensObject (members : List Named) (last : Gap) (rest : List Char) :
    tokens (objectText (members.map Named.toMember) last ++ rest) = .openObject ::
      tokens (joined true (members.map (·.text)) ++ (last.chars ++ '}' :: rest)) := by
  simp only [objectText,List.map_map,List.cons_append,List.append_assoc,List.nil_append]
  exact tokensMark rfl _

section Records
variable {fields : List (RecordField σ)} {fits : String → List Char → Prop}
  {draft : List String → σ} (drafts : Drafts fields fits draft) (record : Reader σ) {name : String}
  {wanted : Option String} (made : record = Reader.record name fields wanted (draft []))
include drafts made

theorem objectRead {members : List Named} (suits : ∀ m ∈ members, m.Suits (fieldNames fields) fits)
    (once : (given (fieldNames fields) members).Nodup) (last : Gap) (rest : List Char) :
    record.run (tokens (objectText (members.map Named.toMember) last ++ rest)) =
      .ok (draft (given (fieldNames fields) members),tokens rest) := by
  rw [made,tokensObject]
  simp only [Reader.record,membersRead drafts last rest suits once,bind,Except.bind]
  rfl

theorem objectRepeated {members : List Named}
    (suits : ∀ m ∈ members, m.Suits (fieldNames fields) fits)
    (again : ¬ (given (fieldNames fields) members).Nodup) (last : Gap) :
    ∃ key, (given (fieldNames fields) members).Duplicate key ∧
      ∀ rest, ∃ after, record.run (tokens (objectText (members.map Named.toMember) last ++ rest)) =
        .error (Reader.repeated key after) := by
  obtain ⟨before,m,later,rfl,once,old⟩ := firstRepeated again
  refine ⟨m.name,?_,fun rest => ?_⟩
  · have known : m.name ∈ fieldNames fields := of_decide_eq_true (List.mem_filter.mp old).2
    have first := List.count_pos_iff.mpr old
    rw [List.duplicate_iff_two_le_count,given,List.map_append,List.filter_append,List.count_append]
    change 2 ≤ (given _ before).count m.name + (given _ (m :: later)).count m.name
    rw [givenCons,if_pos known,List.count_cons_self]
    omega
  · obtain ⟨after,refused⟩ := membersRepeated drafts last rest
      (fun n inside => suits n (List.mem_append_left _ inside)) once old (later.map (·.text))
    refine ⟨after,?_⟩
    rw [made,tokensObject,List.map_append,List.map_cons]
    simp only [Reader.record,refused,bind,Except.bind]

theorem listRead {taken left : List (RecordField σ)} {items : List Item}
    (whole : fields = taken ++ left)
    (each : List.Forall₂ (fun name (i : Item) => fits name i.value) (fieldNames taken) items)
    (optional : left = [] ∨ wanted = none) (last : Gap) (rest : List Char) :
    record.run (tokens (listText items last ++ rest)) = .ok (draft (fieldNames taken),tokens rest) := by
  have inside : ∀ f ∈ taken, f ∈ fields := fun f more => whole ▸ List.mem_append_left left more
  have read := listedTaken drafts last rest (List.forall₂_map_left_iff.mp each) inside optional 0 []
  rw [← whole,show (0 == 0) = true from rfl] at read
  rw [made,tokensList]
  simp only [Reader.record,read,bind,Except.bind]
  rfl

end Records

/-! Documents. -/

theorem checkRun {α : Type} {r : Reader σ} {finish : σ → Except Problem α} {d : σ} {a : α}
    {ts rest : List Token} (read : r.run ts = .ok (d,rest)) (finished : finish d = .ok a) :
    (r.check finish).run ts = .ok (a,rest) := by
  simp only [Reader.check,read,finished,bind,Except.bind]

theorem documentRead {α : Type} {r : Reader α} {a : α} {cs : List Char}
    (read : ∀ rest, Ends rest → r.run (tokens (cs ++ rest)) = .ok (a,tokens rest))
    (before after : Gap) :
    r.document (String.ofList (before.chars ++ (cs ++ after.chars))) = .ok a := by
  obtain ⟨ends,nothing⟩ := gapNothing after
  simp only [Reader.document,String.toList_ofList,tokensGap,read after.chars ends,nothing]

def Reader.Refuses {α : Type} (r : Reader α) (text : String) (mismatch : Mismatch) : Prop :=
  ∃ place, r.document text = .error ⟨.mismatch mismatch,place⟩

theorem documentRefused {α : Type} {r : Reader α} {cs : List Char} {mismatch : Mismatch}
    (refused : ∀ rest, ∃ h, r.run (tokens (cs ++ rest)) = .error h ∧ h.problem = .mismatch mismatch)
    (before after : Gap) :
    r.Refuses (String.ofList (before.chars ++ (cs ++ after.chars))) mismatch := by
  obtain ⟨h,stopped,problem⟩ := refused after.chars
  refine ⟨(h.located (before.chars ++ (cs ++ after.chars))).place,?_⟩
  simp only [Reader.document,String.toList_ofList,tokensGap,stopped,← problem]
  rfl

theorem repeatedProblem (name : String) (after : List Token) :
    (Reader.repeated name after).problem = .mismatch (.duplicateField name) := by
  unfold Reader.repeated
  split <;> rfl

end GridRobot.Json
