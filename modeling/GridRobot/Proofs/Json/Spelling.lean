import GridRobot.Proofs.Json.Taking
import GridRobot.Proofs.Json.Tokens

/-! From tokens back to the text. Marks and words are spelled in one way each, so whoever knows that
a text was cut into those of an array knows the text, up to the space in it. -/
namespace GridRobot.Json

variable {α : Type}

theorem firstToken {cs : List Char} {t : Token} {ts : List Token} (cut : tokens cs = t :: ts) :
    ∃ (gap : Gap) (c : Char) (rest : List Char) (after : Option (List Char)),
      cs = gap.chars ++ c :: rest ∧ token c rest = (t,after) ∧ ts = (after.map tokens).getD [] := by
  induction cs with
  | nil => simp [tokensNil] at cut
  | cons c cs ih =>
    by_cases blank : isSpace c = true
    · have space := spaceMember.mp blank
      have same := tokensGap ⟨[c],by simpa using space⟩ cs
      obtain ⟨gap,d,rest,after,rfl,first,later⟩ := ih (same.symm.trans cut)
      exact ⟨⟨c :: gap.chars,List.forall_mem_cons.mpr ⟨space,gap.space⟩⟩,d,rest,after,rfl,first,later⟩
    · have solid : isSpace c = false := by simpa using blank
      rw [tokensHead solid] at cut
      obtain ⟨first,later⟩ := List.cons.inj cut
      exact ⟨.none,c,cs,(token c cs).2,rfl,by rw [← first],later.symm⟩

theorem nothingLeft {cs : List Char} (cut : tokens cs = []) : ∃ gap : Gap, cs = gap.chars := by
  induction cs with
  | nil => exact ⟨.none,rfl⟩
  | cons c cs ih =>
    by_cases blank : isSpace c = true
    · have space := spaceMember.mp blank
      have same := tokensGap ⟨[c],by simpa using space⟩ cs
      obtain ⟨gap,rfl⟩ := ih (same.symm.trans cut)
      exact ⟨⟨c :: gap.chars,List.forall_mem_cons.mpr ⟨space,gap.space⟩⟩,rfl⟩
    · have solid : isSpace c = false := by simpa using blank
      rw [tokensHead solid] at cut
      contradiction

theorem tokenMark {c m : Char} {rest : List Char} {t : Token} {after : Option (List Char)}
    (mark : mark? m = some t) (first : token c rest = (t,after)) : c = m ∧ after = some rest := by
  unfold token at first
  split at first
  · rename_i marked
    cases first
    unfold mark? at mark marked
    split at mark <;> cases mark <;> split at marked <;> cases marked <;> exact ⟨rfl,rfl⟩
  · -- no other token is a mark
    unfold mark? at mark
    split at mark <;> cases mark
    all_goals repeat' split at first
    all_goals cases first

theorem lettersTaken {es cs after : List Char} (taken : expectLetters es cs = .ok after) :
    cs = es ++ after := by
  induction es generalizing cs with
  | nil =>
    cases taken
    rfl
  | cons e es ih =>
    cases cs with
    | nil => contradiction
    | cons c cs =>
      simp only [expectLetters] at taken
      split at taken
      · rename_i same
        rw [same,ih taken,List.cons_append]
      · contradiction

theorem tokenWord {c : Char} {rest : List Char} {w : Word} {after : Option (List Char)}
    (first : token c rest = (.word (.ok w),after)) :
    ∃ letters after', wordFrom? c = some (w,letters) ∧ after = some after' ∧ rest = letters ++ after' := by
  unfold token at first
  split at first
  · rename_i marked
    cases first
    unfold mark? at marked
    split at marked <;> cases marked
  · split at first
    · rename_i word
      split at first
      · rename_i taken
        cases first
        exact ⟨_,_,word,rfl,lettersTaken taken⟩
      · cases first
    · repeat' split at first
      all_goals cases first

theorem markSpelled {m : Char} {t : Token} (mark : mark? m = some t) {cs : List Char}
    {ts : List Token} (cut : tokens cs = t :: ts) :
    ∃ (gap : Gap) (after : List Char), cs = gap.chars ++ m :: after ∧ tokens after = ts := by
  obtain ⟨gap,c,rest,after,rfl,first,rfl⟩ := firstToken cut
  obtain ⟨rfl,rfl⟩ := tokenMark mark first
  exact ⟨gap,rest,rfl,rfl⟩

/- Whatever is cut into the tokens of a value, and then others, begins with a text of the value. -/
def Spells (form : α → List Token) (fits : α → List Char → Prop) : Prop :=
  ∀ a cs ts, tokens cs = form a ++ ts → ∃ (gap : Gap) (part after : List Char),
    cs = gap.chars ++ (part ++ after) ∧ fits a part ∧ tokens after = ts

theorem boolSpelled :
    Spells (fun b => [.word (.ok (if b then .true else .false))]) fun b cs => cs = writeBool b := by
  intro b cs ts cut
  obtain ⟨gap,c,rest,after,rfl,first,rfl⟩ := firstToken cut
  obtain ⟨letters,after,word,rfl,rfl⟩ := tokenWord first
  refine ⟨gap,writeBool b,after,?_,rfl,rfl⟩
  cases b <;> unfold wordFrom? at word <;> split at word <;> cases word <;> rfl

section Lists
variable {form : α → List Token} {fits : α → List Char → Prop} (spells : Spells form fits)
include spells

theorem laterSpelled {as : List α} {cs : List Char} {ts : List Token}
    (cut : tokens cs = as.flatMap (fun a => .comma :: form a) ++ .closeList :: ts) :
    ∃ (gap : Gap) (items : List Item) (last : Gap) (after : List Char),
      cs = gap.chars ++ ((items.map Item.text).flatMap (',' :: ·) ++ (last.chars ++ ']' :: after)) ∧
        List.Forall₂ fits as (items.map Item.value) ∧ tokens after = ts := by
  induction as generalizing cs with
  | nil =>
    obtain ⟨last,after,rfl,left⟩ := markSpelled (m := ']') rfl cut
    exact ⟨.none,[],last,after,rfl,.nil,left⟩
  | cons a as ih =>
    rw [List.flatMap_cons,List.append_assoc,List.cons_append] at cut
    obtain ⟨gap,rest,rfl,opened⟩ := markSpelled (m := ',') rfl cut
    obtain ⟨before,value,rest,rfl,fit,ended⟩ := spells a _ _ opened
    obtain ⟨behind,items,last,after,rfl,each,left⟩ := ih ended
    refine ⟨gap,⟨before,value,behind⟩ :: items,last,after,?_,.cons fit each,left⟩
    simp [Item.text]

theorem listSpelled : Spells (listTokens form) (ListOf fits) := by
  intro as cs ts cut
  rw [listTokens,List.cons_append,List.append_assoc] at cut
  obtain ⟨gap,rest,rfl,opened⟩ := markSpelled (m := '[') rfl cut
  cases as with
  | nil =>
    obtain ⟨last,after,rfl,left⟩ := markSpelled (m := ']') rfl opened
    exact ⟨gap,listText [] last,after,by simp [listText],⟨[],last,rfl,.nil⟩,left⟩
  | cons a as =>
    rw [List.map_cons,intercalateCons,List.append_assoc,List.flatMap_map] at opened
    obtain ⟨before,value,rest,rfl,fit,ended⟩ := spells a _ _ opened
    obtain ⟨behind,items,last,after,rfl,each,left⟩ := laterSpelled spells ended
    refine ⟨gap,listText (⟨before,value,behind⟩ :: items) last,after,?_,
      ⟨_,last,rfl,.cons fit each⟩,left⟩
    simp [listText,intercalateCons,Item.text]

end Lists

theorem documentSpelled {r : Reader α} {form : α → List Token} {fits : α → List Char → Prop}
    (takes : Takes r form) (spells : Spells form fits) {text : String} {a : α}
    (read : r.document text = .ok a) :
    ∃ (before after : Gap) (cs : List Char),
      text = String.ofList (before.chars ++ (cs ++ after.chars)) ∧ fits a cs := by
  unfold Reader.document at read
  split at read
  · contradiction
  · rename_i taken
    cases read
    obtain ⟨before,cs,rest,same,fit,left⟩ := spells _ _ _ (takes _ _ _ taken)
    obtain ⟨after,rfl⟩ := nothingLeft left
    exact ⟨before,after,cs,by rw [← same,String.ofList_toList],fit⟩
  · contradiction

end GridRobot.Json
