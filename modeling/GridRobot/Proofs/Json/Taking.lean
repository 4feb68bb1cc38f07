import GridRobot.Json.Record
import Mathlib.Data.List.Infix

/-! What readers take. A reader leaves an end of the tokens it is given, and an array reader takes
just the tokens of its items between brackets. So what stands in a field of a record that has been
read stood as such among the tokens. -/
namespace GridRobot.Json

variable {α β σ : Type}

def Leaves (r : Reader α) : Prop := ∀ ts a rest, r.run ts = .ok (a,rest) → rest <:+ ts

def Takes (r : Reader α) (form : α → List Token) : Prop :=
  ∀ ts a rest, r.run ts = .ok (a,rest) → ts = form a ++ rest

theorem Takes.leaves {r : Reader α} {form : α → List Token} (takes : Takes r form) : Leaves r :=
  fun ts a rest read => ⟨form a,(takes ts a rest read).symm⟩

theorem leavesOne (accept : List Token → Token → Except Halt α) : Leaves (Reader.one accept) := by
  intro ts a rest read
  cases ts with
  | nil => contradiction
  | cons t ts =>
    simp only [Reader.one] at read
    cases accepted : accept ts t with
    | error h => simp [accepted,Except.map] at read
    | ok b =>
      rw [accepted] at read
      cases read
      exact List.suffix_cons t _

theorem mapRun {r : Reader α} {f : α → β} {ts rest : List Token} {b : β}
    (read : (r.map f).run ts = .ok (b,rest)) : ∃ a, r.run ts = .ok (a,rest) ∧ b = f a := by
  simp only [Reader.map] at read
  cases inner : r.run ts with
  | error h => simp [inner,Except.map] at read
  | ok taken =>
    rw [inner] at read
    cases read
    exact ⟨taken.1,rfl,rfl⟩

theorem leavesMap {r : Reader α} (leaves : Leaves r) (f : α → β) : Leaves (r.map f) := by
  intro ts b rest read
  obtain ⟨a,inner,_⟩ := mapRun read
  exact leaves ts a rest inner

theorem leavesSkipped : Leaves Reader.skipped := by
  have leaves (p : Passing) (ts rest : List Token) (skipped : skipFrom p ts = .ok rest) : rest <:+ ts := by
    induction ts generalizing p with
    | nil => contradiction
    | cons t ts ih =>
      simp only [skipFrom] at skipped
      split at skipped
      · contradiction
      · split at skipped
        · cases skipped
          exact List.suffix_cons t _
        · exact (ih _ skipped).trans (List.suffix_cons t ts)
  intro ts _ rest read
  simp only [Reader.skipped,skip] at read
  cases skipped : skipFrom .start ts with
  | error h => simp [skipped,Except.map] at read
  | ok last =>
    rw [skipped] at read
    cases read
    exact leaves _ ts rest skipped

theorem takesBool : Takes Reader.bool fun b => [.word (.ok (if b then .true else .false))] := by
  intro ts b rest read
  cases ts with
  | nil => contradiction
  | cons t ts =>
    simp only [Reader.bool,Reader.one] at read
    split at read <;> first | contradiction | (cases read; rfl)

theorem nextItemSome {first : Bool} {ts rest : List Token}
    (next : nextItem first ts = .ok (some rest)) : ts = (if first then [] else [.comma]) ++ rest := by
  unfold nextItem at next
  split at next
  · contradiction
  · cases next
  · cases first with
    | true => cases next; rfl
    | false =>
      simp only [Bool.false_eq_true,if_false] at next
      split at next
      · contradiction
      · contradiction
      · cases next
        rfl
  · cases first with
    | true => cases next; rfl
    | false => contradiction

theorem endListOk {ts rest : List Token} (ended : endList ts = .ok rest) : ts = .closeList :: rest := by
  unfold endList at ended
  split at ended <;> first | contradiction | (cases ended; rfl)

/-! Arrays. -/

def listTokens (form : α → List Token) (as : List α) : List Token :=
  .openList :: ([Token.comma].intercalate (as.map form) ++ [.closeList])

theorem listTokensMap (form : β → List Token) (f : α → β) (as : List α) :
    listTokens form (as.map f) = listTokens (fun a => form (f a)) as := by
  rw [listTokens,List.map_map]
  rfl

theorem intercalateConcat {γ : Type} (sep : List γ) (parts : List (List γ)) (part : List γ) :
    sep.intercalate (parts ++ [part]) =
      sep.intercalate parts ++ (if parts.isEmpty then [] else sep) ++ part := by
  induction parts with
  | nil => simp
  | cons first parts ih =>
    cases parts with
    | nil => simp [List.intercalate_cons_cons]
    | cons second parts =>
      rw [List.cons_append,List.cons_append,List.intercalate_cons_cons,← List.cons_append,ih,
        List.intercalate_cons_cons]
      simp

theorem itemsForm {r : Reader α} {form : α → List Token} (takes : Takes r form) {size n : Nat}
    {ts rest : List Token} {v : Vector α n} (read : Reader.itemsExactly r size n ts = .ok (v,rest)) :
    ts = [Token.comma].intercalate (v.toList.map form) ++ rest := by
  induction n generalizing rest with
  | zero =>
    cases read
    rfl
  | succ n ih =>
    simp only [Reader.itemsExactly,bind,Except.bind] at read
    split at read
    · contradiction
    · rename_i before taken
      split at read
      · contradiction
      · rename_i next step
        split at read
        · contradiction
        · rename_i ts'
          split at read
          · contradiction
          · rename_i last item
            cases read
            have empty : (before.1.toList.map form).isEmpty = (n == 0) := by
              cases n <;> simp
            rw [ih taken,nextItemSome step,takes _ _ _ item,Vector.toList_push,List.map_append,
              List.map_cons,List.map_nil,intercalateConcat,empty]
            cases n <;> simp

theorem takesArray {r : Reader α} {form : α → List Token} (takes : Takes r form) (n : Nat) :
    Takes (Reader.array r n) fun v => listTokens form v.toList := by
  intro ts v rest read
  simp only [Reader.array] at read
  split at read
  · contradiction
  · rename_i inner
    cases taken : Reader.itemsExactly r n n inner with
    | error h => simp [taken,bind,Except.bind] at read
    | ok part =>
      cases ended : endList part.2 with
      | error h => simp [taken,ended,bind,Except.bind] at read
      | ok last =>
        simp only [taken,ended,bind,Except.bind,pure,Except.pure] at read
        cases read
        rw [itemsForm takes taken,endListOk ended]
        simp [listTokens]
  · contradiction

/-! Records. A fact about the draft that every field keeps, wherever among the tokens it is read,
holds of the draft of the whole record. -/

theorem memberValueRun {r : Reader α} {ts rest : List Token} {a : α}
    (read : r.memberValue.run ts = .ok (a,rest)) :
    ∃ after, ts = .colon :: after ∧ r.run after = .ok (a,rest) := by
  simp only [Reader.memberValue] at read
  cases ts with
  | nil => contradiction
  | cons t ts => cases t <;> first | contradiction | exact ⟨ts,rfl,read⟩

theorem nextKeySuffix {first : Bool} {ts rest : List Token} {key : List Char}
    (next : nextKey first ts = .ok (some (key,rest))) : rest <:+ ts := by
  have keyed {k : Except Flaw (List Char)} {after : List Token}
      (next : keyText k after = .ok (some (key,rest))) : after = rest := by
    unfold keyText at next
    split at next <;> cases next
    rfl
  unfold nextKey at next
  split at next
  · contradiction
  · cases next
  · split at next
    · contradiction
    · split at next
      · contradiction
      · contradiction
      · rw [keyed next]
        exact (List.suffix_cons _ _).trans (List.suffix_cons _ _)
      · contradiction
  · split at next
    · rw [keyed next]
      exact List.suffix_cons _ _
    · contradiction
  · contradiction

structure Keeps (fields : List (RecordField σ)) (all : List Token) (P : σ → Prop) : Prop where
  leaves : ∀ f ∈ fields, ∀ d, Leaves (f.read d)
  kept : ∀ f ∈ fields, ∀ d d' ts rest, ts <:+ all → P d → (f.read d).run ts = .ok (d',rest) → P d'

section Records
variable {fields : List (RecordField σ)} {all : List Token} {P : σ → Prop}
  (keeps : Keeps fields all P)
include keeps

theorem memberKeeps {d d' : σ} {key : List Char} {after rest : List Token} {r : Reader σ}
    (chosen : Reader.member fields d key after = .ok r) (read : r.run after = .ok (d',rest))
    (part : after <:+ all) (held : P d) : rest <:+ all ∧ P d' := by
  unfold Reader.member at chosen
  split at chosen
  · cases chosen
    obtain ⟨value,rfl,skipped⟩ := memberValueRun read
    obtain ⟨_,passed,rfl⟩ := mapRun skipped
    exact ⟨(leavesSkipped _ _ _ passed).trans ((List.suffix_cons _ _).trans part),held⟩
  · rename_i f found
    have inside := List.mem_of_find?_eq_some found
    split at chosen
    · contradiction
    · cases chosen
      obtain ⟨value,rfl,taken⟩ := memberValueRun read
      have within := (List.suffix_cons _ _).trans part
      exact ⟨(keeps.leaves f inside d _ _ _ taken).trans within,
        keeps.kept f inside d d' value rest within held taken⟩

theorem membersKeep {first : Bool} {d d' : σ} {ts rest : List Token}
    (read : Reader.members fields first d ts = .ok (d',rest)) (part : ts <:+ all) (held : P d) :
    P d' := by
  fun_induction Reader.members fields first d ts with
  | case1 => contradiction
  | case2 =>
    cases read
    exact held
  | case3 => contradiction
  | case4 => contradiction
  | case5 first d ts key after next r chosen d'' rest' taken ih =>
    obtain ⟨left,still⟩ := memberKeeps keeps chosen taken ((nextKeySuffix next).trans part) held
    exact ih read left still

theorem listedKeeps {wanted : Option String} {taken : List (RecordField σ)}
    (inside : ∀ f ∈ taken, f ∈ fields) {n : Nat} {d d' : σ} {ts rest : List Token}
    (read : Reader.listed wanted n taken d ts = .ok (d',rest)) (part : ts <:+ all) (held : P d) :
    P d' := by
  induction taken generalizing n d ts with
  | nil =>
    cases read
    exact held
  | cons f taken ih =>
    have here := inside f List.mem_cons_self
    simp only [Reader.listed,bind,Except.bind] at read
    split at read
    · contradiction
    · rename_i next step
      split at read
      · split at read
        · contradiction
        · cases read
          exact held
      · rename_i ts'
        have within : ts' <:+ all :=
          (nextItemSome step ▸ List.suffix_append _ ts' : ts' <:+ ts).trans part
        split at read
        · contradiction
        · rename_i got value
          exact ih (fun g more => inside g (List.mem_cons_of_mem _ more)) read
            ((keeps.leaves f here d _ _ _ value).trans within)
            (keeps.kept f here d _ _ _ within held value)

theorem recordKeeps {name : String} {wanted : Option String} {d d' : σ} {rest : List Token}
    (read : (Reader.record name fields wanted d).run all = .ok (d',rest)) (held : P d) : P d' := by
  simp only [Reader.record] at read
  split at read
  · contradiction
  · rename_i ts
    cases taken : Reader.listed wanted 0 fields d ts with
    | error h => simp [taken,bind,Except.bind] at read
    | ok part =>
      cases ended : endList part.2 with
      | error h => simp [taken,ended,bind,Except.bind] at read
      | ok last =>
        simp only [taken,ended,bind,Except.bind,pure,Except.pure] at read
        cases read
        exact listedKeeps keeps (fun _ inside => inside) taken (List.suffix_cons _ ts) held
  · rename_i ts
    cases taken : Reader.members fields true d ts with
    | error h => simp [taken,bind,Except.bind] at read
    | ok part =>
      cases ended : Reader.closeObject part.2 with
      | error h => simp [taken,ended,bind,Except.bind] at read
      | ok last =>
        simp only [taken,ended,bind,Except.bind,pure,Except.pure] at read
        cases read
        exact membersKeep keeps taken (List.suffix_cons _ ts) held
  · contradiction

end Records

end GridRobot.Json
