import GridRobot.Program.Text
import GridRobot.Proofs.Words
import Mathlib.Data.List.Forall2

/-! Program text. The ten spellings of the instructions are told apart by their letters, and
letters only by ASCII case; a text is read word by word, and the first word that is none of
them is the one that is reported. -/
namespace GridRobot

namespace Instruction

def spellings : List (Instruction × String) :=
  [(.turnLeft,"left"),(.turnLeft,"l"),(.turnRight,"right"),(.turnRight,"r"),
    (.advance,"forward"),(.advance,"f"),(.loopStart,"loop"),(.loopStart,"["),
    (.loopEnd,"end"),(.loopEnd,"]")]

def IsCapital (c : Char) : Prop := 'A'.toNat ≤ c.toNat ∧ c.toNat ≤ 'Z'.toNat

def SameLetter (c d : Char) : Prop :=
  c = d ∨ IsCapital c ∧ d.toNat = c.toNat + 32 ∨ IsCapital d ∧ c.toNat = d.toNat + 32

def Spells (i : Instruction) (word : List Char) : Prop :=
  ∃ spelling, (i,spelling) ∈ spellings ∧ List.Forall₂ SameLetter spelling.toList word

theorem toLowerNat (c : Char) :
    c.toLower.toNat = if 65 ≤ c.toNat ∧ c.toNat ≤ 90 then c.toNat + 32 else c.toNat := by
  have inRange : (c.val ≥ 'A'.val ∧ c.val ≤ 'Z'.val) ↔ 65 ≤ c.toNat ∧ c.toNat ≤ 90 := Iff.rfl
  unfold Char.toLower
  split
  · rename_i capital
    have bound := (inRange.mp capital).2
    rw [if_pos (inRange.mp capital)]
    change (c.val + ('a'.val - 'A'.val)).toNat = c.val.toNat + 32
    rw [UInt32.toNat_add]
    exact Nat.mod_eq_of_lt (Nat.lt_of_le_of_lt (Nat.add_le_add_right bound 32) (by decide))
  · rename_i other
    rw [if_neg (mt inRange.mpr other)]

theorem toLowerSame {c d : Char} : c.toLower = d.toLower ↔ SameLetter c d := by
  have capital (b : Char) : IsCapital b ↔ 65 ≤ b.toNat ∧ b.toNat ≤ 90 := Iff.rfl
  rw [SameLetter,← Char.toNat_inj,← Char.toNat_inj,toLowerNat,toLowerNat,capital,capital]
  split <;> split <;> omega

theorem sameWordLetters {spelling : String} {word : List Char} :
    sameWord spelling word = true ↔ List.Forall₂ SameLetter spelling.toList word := by
  rw [sameWord,beq_iff_eq,← List.forall₂_eq_eq_eq,List.forall₂_map_left_iff,
    List.forall₂_map_right_iff]
  simp only [toLowerSame]

theorem spelledBySpells {i : Instruction} {word : List Char} :
    i.spelledBy word = true ↔ i.Spells word := by
  have folded {a b : String} (same : a.toList.map Char.toLower = b.toList.map Char.toLower) :
      sameWord a word = sameWord b word := by rw [sameWord,sameWord,same]
  have left : sameWord turnLeft.shortName word = sameWord "l" word := folded (by decide)
  have right : sameWord turnRight.shortName word = sameWord "r" word := folded (by decide)
  have forward : sameWord advance.shortName word = sameWord "f" word := folded (by decide)
  simp only [Spells,← sameWordLetters,spelledBy,Bool.or_eq_true]
  cases i with
  | turnLeft => simp [left,spellings,name]
  | turnRight => simp [right,spellings,name]
  | advance => simp [forward,spellings,name]
  | loopStart | loopEnd => simp [spellings,name,shortName]

theorem spellingsApart : ∀ a ∈ spellings, ∀ b ∈ spellings,
    a.2.toList.map Char.toLower = b.2.toList.map Char.toLower → a.1 = b.1 := by
  decide +kernel

theorem spellsOnce {i j : Instruction} {word : List Char} (one : i.Spells word)
    (other : j.Spells word) : i = j := by
  obtain ⟨left,inLeft,letters⟩ := one
  obtain ⟨right,inRight,letters'⟩ := other
  have same := beq_iff_eq.mp (sameWordLetters.mpr letters)
  have same' := beq_iff_eq.mp (sameWordLetters.mpr letters')
  exact spellingsApart _ inLeft _ inRight (same.trans same'.symm)

theorem ofWordSpells {i : Instruction} {word : List Char} :
    ofWord? word = some i ↔ i.Spells word := by
  constructor
  · intro found
    exact spelledBySpells.mp (List.find?_some (p := (spelledBy · word)) found)
  · intro spelled
    cases found : ofWord? word with
    | none =>
      have unspelled := List.find?_eq_none.mp found i (by cases i <;> decide)
      exact absurd (spelledBySpells.mpr spelled) unspelled
    | some j =>
      have other := spelledBySpells.mp (List.find?_some (p := (spelledBy · word)) found)
      rw [spellsOnce spelled other]

theorem ofWordUnknown {word : List Char} :
    ofWord? word = none ↔ ∀ i : Instruction, ¬ i.Spells word := by
  simp only [← ofWordSpells]
  exact Option.eq_none_iff_forall_ne_some

end Instruction

namespace Program
open Instruction (Spells)

structure FirstUnknown (words : List (List Char)) (e : UnknownWord) : Prop where
  found : words[e.index]? = some e.word.toList
  unknown : ∀ i, ¬ Spells i e.word.toList
  first : ∀ n w, n < e.index → words[n]? = some w → ∃ i, Spells i w

theorem firstUnknownHere {w : List Char} {rest : List (List Char)} {e : UnknownWord}
    (unknown : ∀ i, ¬ Spells i w) :
    FirstUnknown (w :: rest) e ↔ e = ⟨String.ofList w,0⟩ := by
  obtain ⟨word,index⟩ := e
  constructor
  · intro reported
    cases index with
    | zero =>
      have same : w = word.toList := Option.some.inj reported.found
      rw [same,String.ofList_toList]
    | succ index =>
      obtain ⟨i,spelled⟩ := reported.first 0 w (Nat.succ_pos _) rfl
      exact absurd spelled (unknown i)
  · intro same
    cases same
    refine ⟨by simp,?_,fun n v early => absurd early (Nat.not_lt_zero n)⟩
    rw [String.toList_ofList]
    exact unknown

theorem firstUnknownLater {w : List Char} {rest : List (List Char)} {e : UnknownWord}
    {i : Instruction} (spelled : Spells i w) :
    FirstUnknown (w :: rest) e ↔ ∃ n, e.index = n + 1 ∧ FirstUnknown rest ⟨e.word,n⟩ := by
  obtain ⟨word,index⟩ := e
  constructor
  · intro reported
    cases index with
    | zero =>
      have same : w = word.toList := Option.some.inj reported.found
      exact absurd (same ▸ spelled) (reported.unknown i)
    | succ n =>
      exact ⟨n,rfl,reported.found,reported.unknown,fun m v early found =>
        reported.first (m + 1) v (Nat.succ_lt_succ early) found⟩
  · rintro ⟨n,rfl,found,unknown,first⟩
    refine ⟨found,unknown,?_⟩
    intro m v early there
    cases m with
    | zero => cases Option.some.inj there; exact ⟨i,spelled⟩
    | succ m => exact first m v (Nat.lt_of_succ_lt_succ early) there

theorem ofWordsOk {index : Nat} {words : List (List Char)} {instructions : List Instruction} :
    ofWords index words = .ok instructions ↔ List.Forall₂ Spells instructions words := by
  induction words generalizing index instructions with
  | nil => cases instructions <;> simp [ofWords]
  | cons w rest ih =>
    cases known : Instruction.ofWord? w with
    | none =>
      have unknown := Instruction.ofWordUnknown.mp known
      simp only [ofWords,known,reduceCtorEq,false_iff]
      intro spelled
      cases spelled with
      | cons head tail => exact unknown _ head
    | some i =>
      have spelled := Instruction.ofWordSpells.mp known
      simp only [ofWords,known]
      constructor
      · intro read
        cases later : ofWords (index + 1) rest with
        | error e => rw [later] at read; cases read
        | ok more =>
          rw [later] at read
          cases read
          exact .cons spelled (ih.mp later)
      · intro spells
        cases spells with
        | cons head tail =>
          rw [ih.mpr tail,Instruction.spellsOnce head spelled]
          rfl

theorem ofWordsError {index : Nat} {words : List (List Char)} {e : UnknownWord} :
    ofWords index words = .error e ↔
      ∃ n, e.index = index + n ∧ FirstUnknown words ⟨e.word,n⟩ := by
  induction words generalizing index with
  | nil =>
    constructor
    · intro read
      cases read
    · rintro ⟨n,_,reported⟩
      exact absurd reported.found (by simp)
  | cons w rest ih =>
    cases known : Instruction.ofWord? w with
    | none =>
      have unknown := Instruction.ofWordUnknown.mp known
      simp only [ofWords,known,firstUnknownHere unknown]
      obtain ⟨word,place⟩ := e
      simp [eq_comm,and_comm]
    | some i =>
      have spelled := Instruction.ofWordSpells.mp known
      have read : ofWords index (w :: rest) = .error e ↔ ofWords (index + 1) rest = .error e := by
        simp only [ofWords,known]
        cases ofWords (index + 1) rest <;> simp [Except.map]
      rw [read,ih]
      simp only [firstUnknownLater spelled]
      constructor
      · rintro ⟨n,place,reported⟩
        exact ⟨n + 1,by omega,n,rfl,reported⟩
      · rintro ⟨m,place,n,rfl,reported⟩
        exact ⟨n,by omega,reported⟩

theorem spelledAll {instructions : List Instruction} {words : List (List Char)}
    (spelled : List.Forall₂ Spells instructions words) : ∀ w ∈ words, ∃ i, Spells i w := by
  induction spelled with
  | nil => simp
  | cons head tail ih => exact List.forall_mem_cons.mpr ⟨⟨_,head⟩,ih⟩

theorem parseOk {text : String} {p : Program} :
    parse text = .ok p ↔ List.Forall₂ Spells p.instructions (Text.words text.toList) := by
  rw [← @ofWordsOk 0]
  unfold parse
  cases ofWords 0 (Text.words text.toList) with
  | error e => simp [Except.map]
  | ok read =>
    obtain ⟨instructions⟩ := p
    simp [Except.map]

theorem parseError {text : String} {e : UnknownWord} :
    parse text = .error e ↔ FirstUnknown (Text.words text.toList) e := by
  have read : parse text = .error e ↔ ofWords 0 (Text.words text.toList) = .error e := by
    unfold parse
    cases ofWords 0 (Text.words text.toList) <;> simp [Except.map]
  rw [read,ofWordsError]
  simp

theorem parseSucceeds {text : String} :
    (∃ p, parse text = .ok p) ↔ ∀ w ∈ Text.words text.toList, ∃ i, Spells i w := by
  constructor
  · rintro ⟨p,read⟩
    exact spelledAll (parseOk.mp read)
  · intro known
    cases read : parse text with
    | ok p => exact ⟨p,rfl⟩
    | error e =>
      have reported := parseError.mp read
      obtain ⟨i,spelled⟩ := known _ (List.mem_of_getElem? reported.found)
      exact absurd spelled (reported.unknown i)

structure ReadsWords (text : String) (words : List (List Char)) : Prop where
  runs : Text.Runs text.toList words
  only : ∀ others, Text.Runs text.toList others → others = words
  succeeds : (∃ p, parse text = .ok p) ↔ ∀ w ∈ words, ∃ i, Spells i w
  program : ∀ p, parse text = .ok p ↔ List.Forall₂ Spells p.instructions words
  failure : ∀ e, parse text = .error e ↔ FirstUnknown words e

theorem parseFollowsGrammar (text : String) :
    (∃ words, ReadsWords text words) ∧ ∀ i j w, Spells i w ∧ Spells j w → i = j :=
  ⟨⟨Text.words text.toList,Text.wordsRuns text.toList,fun _ runs => Text.runsUnique.mp runs,
    parseSucceeds,fun _ => parseOk,fun _ => parseError⟩,
    fun _ _ _ both => Instruction.spellsOnce both.1 both.2⟩

/- Any blanks separate words, and a word is reported as it was written. -/
example : parse "[\u3000FORWARD f\t] Lé x" = .error ⟨"Lé",4⟩ := rfl

end Program
end GridRobot
