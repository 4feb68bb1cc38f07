import GridRobot.Text.Blank

/-! Words. A text is cut into words and the blanks around them in one way only, if every
word has to go as far as it can; and this is the way it is cut. -/
namespace GridRobot.Text

def whiteSpace : List Nat :=
  [0x09,0x0A,0x0B,0x0C,0x0D,0x20,0x85,0xA0,0x1680,0x2000,0x2001,0x2002,0x2003,0x2004,0x2005,
    0x2006,0x2007,0x2008,0x2009,0x200A,0x2028,0x2029,0x202F,0x205F,0x3000]

def White (c : Char) : Prop := c.toNat ∈ whiteSpace

theorem blankWhite {c : Char} : isBlank c = true ↔ White c := by
  have ranges : whiteSpace = .range' 0x09 5 ++ [0x20,0x85,0xA0,0x1680] ++ .range' 0x2000 11 ++
      [0x2028,0x2029,0x202F,0x205F,0x3000] := rfl
  rw [White,ranges]
  simp only [isBlank,List.mem_append,List.mem_range'_1,List.mem_cons,List.not_mem_nil,or_false,
    Bool.or_eq_true,Bool.and_eq_true,decide_eq_true_eq,beq_iff_eq]
  omega

theorem blankFalse {c : Char} : isBlank c = false ↔ ¬ White c := by
  rw [← blankWhite,Bool.not_eq_true]

/- A text and its words in order. Blanks stand before each word and at the end, and no word
could be any longer: what follows it, if anything does, begins with a blank. -/
inductive Runs : List Char → List (List Char) → Prop where
  | done {gap} (white : ∀ c ∈ gap, White c) : Runs gap []
  | word {gap w rest ws} (white : ∀ c ∈ gap, White c) (filled : w ≠ [])
      (solid : ∀ c ∈ w, ¬ White c) (ends : ∀ c ∈ rest.head?, White c) (later : Runs rest ws) :
      Runs (gap ++ w ++ rest) (w :: ws)

theorem wordsBlank {c : Char} (blank : White c) (rest : List Char) :
    words (c :: rest) = words rest := by
  rw [words.eq_def]
  exact if_pos (blankWhite.mpr blank)

theorem wordsLast {c : Char} (letter : ¬ White c) {rest : List Char}
    (ends : ∀ d ∈ rest.head?, White d) : words (c :: rest) = [c] :: words rest := by
  rw [words.eq_def]
  dsimp only
  rw [if_neg (by simpa [blankWhite] using letter)]
  cases rest with
  | nil => rfl
  | cons d rest =>
    have blank := blankWhite.mpr (ends d rfl)
    cases words (d :: rest) <;> simp [blank]

theorem wordsMore {c d : Char} (letter : ¬ White c) (next : ¬ White d) {rest w : List Char}
    {ws : List (List Char)} (later : words (d :: rest) = w :: ws) :
    words (c :: d :: rest) = (c :: w) :: ws := by
  rw [words.eq_def]
  dsimp only
  rw [if_neg (by simpa [blankWhite] using letter),later]
  simp [blankFalse.mpr next]

theorem wordsHead {c : Char} (letter : ¬ White c) (rest : List Char) :
    ∃ w ws, words (c :: rest) = (c :: w) :: ws := by
  rw [words.eq_def]
  dsimp only
  rw [if_neg (by simpa [blankWhite] using letter)]
  split
  · split
    · exact ⟨[],_,rfl⟩
    · exact ⟨_,_,rfl⟩
  · exact ⟨[],_,rfl⟩

theorem wordsGap {gap : List Char} (white : ∀ c ∈ gap, White c) (rest : List Char) :
    words (gap ++ rest) = words rest := by
  induction gap with
  | nil => rfl
  | cons c gap ih =>
    rw [List.cons_append,wordsBlank (white c List.mem_cons_self)]
    exact ih fun d inside => white d (List.mem_cons_of_mem _ inside)

theorem wordsWord {w : List Char} (filled : w ≠ []) (solid : ∀ c ∈ w, ¬ White c)
    {rest : List Char} (ends : ∀ c ∈ rest.head?, White c) :
    words (w ++ rest) = w :: words rest := by
  induction w with
  | nil => contradiction
  | cons c w ih =>
    have letter := solid c List.mem_cons_self
    cases w with
    | nil => exact wordsLast letter ends
    | cons d w =>
      have later := ih (by simp) fun e inside => solid e (List.mem_cons_of_mem _ inside)
      exact wordsMore letter (solid d (by simp)) later

theorem runsWords {cs : List Char} {ws : List (List Char)} (runs : Runs cs ws) : words cs = ws := by
  induction runs with
  | @done gap white => rw [← List.append_nil gap,wordsGap white]; rfl
  | word white filled solid ends later ih =>
    rw [List.append_assoc,wordsGap white,wordsWord filled solid ends,ih]

theorem runsBlank {c : Char} {cs : List Char} {ws : List (List Char)} (blank : White c)
    (runs : Runs cs ws) : Runs (c :: cs) ws := by
  have longer {gap : List Char} (white : ∀ d ∈ gap, White d) : ∀ d ∈ c :: gap, White d :=
    List.forall_mem_cons.mpr ⟨blank,white⟩
  cases runs with
  | done white => exact .done (longer white)
  | word white filled solid ends later => exact .word (longer white) filled solid ends later

theorem runsLetter {c d : Char} {cs : List Char} {ws : List (List Char)} (letter : ¬ White c)
    (next : ¬ White d) (runs : Runs (d :: cs) ws) :
    ∃ w later, ws = w :: later ∧ Runs (c :: d :: cs) ((c :: w) :: later) := by
  generalize same : d :: cs = text at runs ⊢
  cases runs with
  | done white => exact absurd (white d (by simp [← same])) next
  | @word gap w rest later white filled solid ends more =>
    -- the word begins at once, since a blank before it would be the first character
    cases gap with
    | cons b gap =>
      cases (List.cons.inj same).1
      exact absurd (white d List.mem_cons_self) next
    | nil =>
      exact ⟨w,later,rfl,@Runs.word [] (c :: w) rest later (by simp) (by simp)
        (List.forall_mem_cons.mpr ⟨letter,solid⟩) ends more⟩

theorem wordsRuns (cs : List Char) : Runs cs (words cs) := by
  induction cs with
  | nil => exact .done (by simp)
  | cons c cs ih =>
    by_cases blank : White c
    · rw [wordsBlank blank]
      exact runsBlank blank ih
    · by_cases ends : ∀ d ∈ cs.head?, White d
      · rw [wordsLast blank ends]
        exact @Runs.word [] [c] cs _ (by simp) (by simp) (by simpa using blank) ends ih
      · cases cs with
        | nil => simp at ends
        | cons d cs =>
          have next : ¬ White d := by simpa using ends
          obtain ⟨w,later,same,runs⟩ := runsLetter blank next ih
          rw [wordsMore blank next same]
          exact runs

theorem runsUnique {cs : List Char} {ws : List (List Char)} : Runs cs ws ↔ ws = words cs :=
  ⟨fun runs => (runsWords runs).symm,fun same => by rw [same]; exact wordsRuns cs⟩

theorem wordsBetween {a gap : List Char} (filled : gap ≠ []) (white : ∀ c ∈ gap, White c)
    (b : List Char) : words (a ++ gap ++ b) = words a ++ words b := by
  -- a word before the gap ends where it ended alone: at its own blank or at the gap's first
  have starts {rest : List Char} (ends : ∀ c ∈ rest.head?, White c) :
      ∀ c ∈ (rest ++ (gap ++ b)).head?, White c := by
    cases rest with
    | cons d rest => exact ends
    | nil =>
      obtain ⟨d,more,rfl⟩ := List.exists_cons_of_ne_nil filled
      intro c first
      cases first
      exact white d List.mem_cons_self
  have runs := wordsRuns a
  generalize words a = ws at runs ⊢
  induction runs with
  | done blank =>
    rw [List.append_assoc,wordsGap blank,wordsGap white]
    rfl
  | word blank letters solid ends later ih =>
    rw [List.append_assoc,List.append_assoc,List.append_assoc,wordsGap blank,
      wordsWord letters solid (starts ends),← List.append_assoc,ih]
    rfl

theorem wordsIntercalate {ws : List (List Char)} {gap : List Char} (filled : gap ≠ [])
    (white : ∀ c ∈ gap, White c) (solid : ∀ w ∈ ws, w ≠ [] ∧ ∀ c ∈ w, ¬ White c) :
    words (gap.intercalate ws) = ws := by
  have alone {w : List Char} (inside : w ∈ ws) : words w = [w] := by
    have single := @wordsWord w (solid w inside).1 (solid w inside).2 [] (by simp)
    rwa [List.append_nil] at single
  induction ws with
  | nil => rfl
  | cons w ws ih =>
    cases ws with
    | nil => rw [List.intercalate_singleton,alone List.mem_cons_self]
    | cons v ws =>
      rw [List.intercalate_cons_cons,wordsBetween filled white,alone List.mem_cons_self,
        ih (fun u inside => solid u (List.mem_cons_of_mem _ inside))
          (fun inside => alone (List.mem_cons_of_mem _ inside))]
      rfl

end GridRobot.Text
