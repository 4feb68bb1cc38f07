import GridRobot.Proofs.ProgramText

/-! Writing and reading programs. A written program reads back as itself, so a text may be
replaced by the text of its program, also between other words; and texts with blanks between
them read one after the other. -/
namespace GridRobot.Program
open Instruction (Spells)

theorem shortNameSolid (i : Instruction) :
    i.shortName.toList ≠ [] ∧ ∀ c ∈ i.shortName.toList, ¬ Text.White c := by
  cases i <;> simp [Instruction.shortName,Text.White,Text.whiteSpace]

theorem shortNameSpells (i : Instruction) : Spells i i.shortName.toList := by
  rw [← Instruction.ofWordSpells]
  cases i <;> decide +kernel

theorem wordsText (p : Program) :
    Text.words p.text.toList = p.instructions.map (·.shortName.toList) := by
  have solid : ∀ w ∈ p.instructions.map (·.shortName.toList), w ≠ [] ∧ ∀ c ∈ w, ¬ Text.White c := by
    intro w inside
    obtain ⟨i,_,rfl⟩ := List.mem_map.mp inside
    exact shortNameSolid i
  have spaced : p.text.toList = [' '].intercalate (p.instructions.map (·.shortName.toList)) := by
    rw [text,write,String.toList_intercalate,List.map_map]
    rfl
  rw [spaced]
  exact Text.wordsIntercalate (by simp) (by simp [Text.White,Text.whiteSpace]) solid

theorem parseText (p : Program) : parse p.text = .ok p := by
  rw [parseOk,wordsText,List.forall₂_map_right_iff,List.forall₂_same]
  exact fun i _ => shortNameSpells i

theorem ofWordsAppend (index : Nat) (left right : List (List Char)) :
    ofWords index (left ++ right) =
      match ofWords index left with
      | .error e => .error e
      | .ok first => (ofWords (index + left.length) right).map (first ++ ·) := by
  induction left generalizing index with
  | nil => cases read : ofWords index right <;> simp [ofWords,read,Except.map]
  | cons w left ih =>
    cases known : Instruction.ofWord? w with
    | none => simp only [List.cons_append,ofWords,known]
    | some i =>
      have further : index + (left.length + 1) = index + 1 + left.length := by omega
      simp only [List.cons_append,ofWords,known,ih,List.length_cons,further]
      cases ofWords (index + 1) left with
      | error e => rfl
      | ok first => cases ofWords (index + 1 + left.length) right <;> rfl

theorem ofWordsFrom (index : Nat) (words : List (List Char)) :
    ofWords index words = (ofWords 0 words).mapError fun e => ⟨e.word,e.index + index⟩ := by
  cases read : ofWords 0 words with
  | ok instructions =>
    rw [Except.mapError,ofWordsOk]
    exact ofWordsOk.mp read
  | error e =>
    obtain ⟨n,place,reported⟩ := ofWordsError.mp read
    exact ofWordsError.mpr ⟨n,by dsimp only; omega,reported⟩

def joined (count : Nat) :
    Except UnknownWord Program → Except UnknownWord Program → Except UnknownWord Program
  | .error e, _ => .error e
  | .ok _, .error e => .error ⟨e.word,e.index + count⟩
  | .ok p, .ok q => .ok ⟨p.instructions ++ q.instructions⟩

def Separates (gap : String) : Prop := gap ≠ "" ∧ ∀ c ∈ gap.toList, Text.White c

theorem wordsSeparated {gap : String} (separates : Separates gap) (a b : String) :
    Text.words (a ++ gap ++ b).toList = Text.words a.toList ++ Text.words b.toList := by
  rw [String.toList_append,String.toList_append]
  refine Text.wordsBetween ?_ separates.2 b.toList
  simpa using separates.1

theorem parseSeparated {gap : String} (separates : Separates gap) (a b : String) :
    parse (a ++ gap ++ b) = joined (Text.words a.toList).length (parse a) (parse b) := by
  simp only [parse,wordsSeparated separates,ofWordsAppend,Nat.zero_add]
  rw [ofWordsFrom (Text.words a.toList).length]
  cases ofWords 0 (Text.words a.toList) with
  | error e => rfl
  | ok first => cases ofWords 0 (Text.words b.toList) <;> rfl

theorem wordsOfParsed {s : String} {p : Program} (read : parse s = .ok p) :
    (Text.words p.text.toList).length = (Text.words s.toList).length := by
  rw [wordsText,List.length_map]
  exact (parseOk.mp read).length_eq

theorem parseReplaced {s gap gap' : String} {p : Program} (read : parse s = .ok p)
    (left : Separates gap) (right : Separates gap') (before after : String) :
    parse (before ++ gap ++ p.text ++ gap' ++ after) =
      parse (before ++ gap ++ s ++ gap' ++ after) := by
  have count : (Text.words (before ++ gap ++ p.text).toList).length =
      (Text.words (before ++ gap ++ s).toList).length := by
    rw [wordsSeparated left,wordsSeparated left,List.length_append,List.length_append,
      wordsOfParsed read]
  rw [parseSeparated right,parseSeparated right,count,parseSeparated left,parseSeparated left,
    parseText,read]

theorem textFaithful :
    (∀ p : Program, parse p.text = .ok p) ∧
    (∀ p q : Program, p.text = q.text → p = q) ∧
    (∀ s p, parse s = .ok p → parse p.text = parse s ∧
      ∀ before gap gap' after, Separates gap → Separates gap' →
        parse (before ++ gap ++ p.text ++ gap' ++ after) =
          parse (before ++ gap ++ s ++ gap' ++ after)) ∧
    ∀ a ws gap b, Text.Runs a.toList ws → Separates gap →
      parse (a ++ gap ++ b) = joined ws.length (parse a) (parse b) := by
  refine ⟨parseText,?_,?_,?_⟩
  · intro p q same
    have read := parseText p
    rw [same,parseText] at read
    exact (Except.ok.inj read).symm
  · intro s p read
    exact ⟨(parseText p).trans read.symm,fun before _ _ after left right =>
      parseReplaced read left right before after⟩
  · intro a ws gap b runs separates
    rw [Text.runsUnique.mp runs]
    exact parseSeparated separates a b

/- The index goes on from the words before the gap, however they were written. -/
example : parse ("Left [\t" ++ "\u2003\n" ++ "] up") = .error ⟨"up",3⟩ := rfl

end GridRobot.Program
