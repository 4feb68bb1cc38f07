import GridRobot.Program.Expansion

/-! Expansion as a grammar. The one pass with an open block in hand emits what the
recursion on blocks says. Seen from outside, the markers cut a token list into blocks,
which are emitted in source order, each as often as the markers beside it decide. -/
namespace GridRobot.Expansion

theorem motionOrMarker (i : Instruction) : i.isMotion ∨ i = .loopStart ∨ i = .loopEnd := by
  cases i <;> simp [Instruction.isMotion]

theorem blockMotion {m : Instruction} (motion : m.isMotion) (rest : List Instruction) :
    block (m :: rest) = m :: block rest ∧ afterBlock (m :: rest) = afterBlock rest := by
  simp [block,afterBlock,motion]

theorem blockMarker {m : Instruction} (marker : m.isMotion = false) (rest : List Instruction) :
    block (m :: rest) = [] ∧ afterBlock (m :: rest) = m :: rest := by
  simp [block,afterBlock,marker]

theorem blockThenRest (tokens : List Instruction) : block tokens ++ afterBlock tokens = tokens :=
  List.takeWhile_append_dropWhile

theorem blockAllMotions {tokens : List Instruction} : ∀ x ∈ block tokens, x.isMotion :=
  fun _ inside => List.all_eq_true.mp List.all_takeWhile _ inside

theorem afterBlockMarker {tokens rest : List Instruction} {m : Instruction}
    (shape : afterBlock tokens = m :: rest) : m = .loopStart ∨ m = .loopEnd := by
  have marker : m.isMotion = false := by
    have head := List.head?_dropWhile_not Instruction.isMotion tokens
    rw [show tokens.dropWhile Instruction.isMotion = m :: rest from shape] at head
    simpa using head
  exact (motionOrMarker m).resolve_left (by simp [marker])

def unrollOpen (body tokens : List Instruction) : List Instruction :=
  match afterBlock tokens with
  | [] => body ++ block tokens
  | .loopEnd :: after => (body ++ block tokens) ++ (body ++ block tokens) ++ unroll after
  | next :: after => unroll (next :: after)

theorem unrollStart (rest : List Instruction) :
    unroll (.loopStart :: rest) = unrollOpen [] rest := by
  rw [unroll,unrollOpen]
  split <;> simp_all

theorem unrollEnd (rest : List Instruction) : unroll (.loopEnd :: rest) = unroll rest := by
  rw [unroll]

theorem unrollMotion {m : Instruction} (motion : m.isMotion) (rest : List Instruction) :
    unroll (m :: rest) = m :: unroll rest := by
  cases m <;> first | contradiction | rw [unroll] <;> simp

theorem unrollOpenMotion {m : Instruction} (motion : m.isMotion) (body rest : List Instruction) :
    unrollOpen body (m :: rest) = unrollOpen (body ++ [m]) rest := by
  simp only [unrollOpen,blockMotion motion,List.append_assoc,List.singleton_append]

theorem unrollOpenStart (body rest : List Instruction) :
    unrollOpen body (.loopStart :: rest) = unroll (.loopStart :: rest) := by
  have marker : Instruction.isMotion .loopStart = false := rfl
  rw [unrollOpen,(blockMarker marker rest).2]

theorem unrollOpenEnd (body rest : List Instruction) :
    unrollOpen body (.loopEnd :: rest) = body ++ body ++ unroll rest := by
  have marker : Instruction.isMotion .loopEnd = false := rfl
  rw [unrollOpen,(blockMarker marker rest).1,(blockMarker marker rest).2]
  simp only [List.append_nil]

def State.outcome (s : State) (tokens : List Instruction) : List Instruction :=
  s.emitted ++ s.body.elim (unroll tokens) (unrollOpen · tokens)

theorem feedMotion {m : Instruction} (motion : m.isMotion) (emitted body : List Instruction) :
    State.feed ⟨emitted,none⟩ m = ⟨emitted ++ [m],none⟩ ∧
    State.feed ⟨emitted,some body⟩ m = ⟨emitted,some (body ++ [m])⟩ := by
  cases m <;> first | contradiction | exact ⟨rfl,rfl⟩

theorem feedKeepsOutcome (s : State) (i : Instruction) (rest : List Instruction) :
    (s.feed i).outcome rest = s.outcome (i :: rest) := by
  obtain ⟨emitted,_ | body⟩ := s
  · rcases motionOrMarker i with motion | rfl | rfl
    · rw [(feedMotion motion emitted []).1]
      simp [State.outcome,unrollMotion motion]
    · simp [State.feed,State.outcome,unrollStart]
    · simp [State.feed,State.outcome,unrollEnd]
  · rcases motionOrMarker i with motion | rfl | rfl
    · rw [(feedMotion motion emitted body).2]
      simp [State.outcome,unrollOpenMotion motion]
    · simp [State.feed,State.outcome,unrollOpenStart,unrollStart]
    · simp [State.feed,State.outcome,unrollOpenEnd]

theorem passOutcome (s : State) (tokens : List Instruction) :
    (tokens.foldl State.feed s).finish = s.outcome tokens := by
  -- for every state of the pass, since a token read leaves another one behind
  induction tokens generalizing s with
  | nil => cases s with | mk emitted body => cases body <;>
      simp [State.finish,State.outcome,unroll,unrollOpen,block,afterBlock]
  | cons i rest ih => rw [List.foldl_cons,ih,feedKeepsOutcome]

theorem expandSplit (pre post : List Instruction) :
    expand (pre ++ post) = (pre.foldl State.feed .initial).outcome post := by
  rw [expand,List.foldl_append,passOutcome]

theorem expandUnroll (tokens : List Instruction) : expand tokens = unroll tokens := by
  rw [expand,passOutcome]
  simp [State.outcome,State.initial]

theorem expandFlat {tokens : List Instruction} (motions : ∀ x ∈ tokens, x.isMotion) :
    expand tokens = tokens := by
  rw [expandUnroll]
  induction tokens with
  | nil => rw [unroll]
  | cons i rest ih =>
    rw [unrollMotion (motions i List.mem_cons_self),
      ih fun x inside => motions x (List.mem_cons_of_mem i inside)]

theorem unrollBlock (tokens : List Instruction) :
    unroll tokens = block tokens ++ unroll (afterBlock tokens) := by
  induction tokens with
  | nil => rfl
  | cons i rest ih =>
    rcases motionOrMarker i with motion | rfl | rfl
    · rw [unrollMotion motion,(blockMotion motion rest).1,(blockMotion motion rest).2,ih]
      rfl
    all_goals rfl

structure Block where
  opening : Option Instruction
  body : List Instruction
  closing : Option Instruction
  deriving DecidableEq, Repr

def copies : Option Instruction → Option Instruction → Nat
  | some .loopStart, some .loopEnd => 2
  | some .loopStart, some .loopStart => 0
  | _, _ => 1

def Block.source (b : Block) : List Instruction := b.body ++ b.closing.toList

def Block.emitted (b : Block) : List Instruction :=
  (List.replicate (copies b.opening b.closing) b.body).flatten

def blocks (opening : Option Instruction) (tokens : List Instruction) : List Block :=
  match _shape : afterBlock tokens with
  | [] => [⟨opening,block tokens,none⟩]
  | m :: rest => ⟨opening,block tokens,some m⟩ :: blocks (some m) rest
  termination_by tokens.length
  decreasing_by
    have cut := congrArg List.length (blockThenRest tokens)
    simp only [List.length_append,_shape,List.length_cons] at cut
    omega

theorem blocksSource (opening : Option Instruction) (tokens : List Instruction) :
    (blocks opening tokens).flatMap Block.source = tokens := by
  fun_induction blocks opening tokens with
  | case1 opening tokens shape =>
    have whole := blockThenRest tokens
    rw [shape] at whole
    simpa [Block.source] using whole
  | case2 opening tokens m rest shape ih =>
    have whole := blockThenRest tokens
    rw [shape] at whole
    simpa [Block.source,ih] using whole

theorem copiesOutside {opening : Option Instruction} (outside : opening ≠ some .loopStart)
    (closing : Option Instruction) : copies opening closing = 1 := by
  unfold copies
  split <;> simp_all

def unrollAfter (opening : Option Instruction) (tokens : List Instruction) : List Instruction :=
  if opening = some .loopStart then unrollOpen [] tokens else unroll tokens

theorem unrollAfterMarker {m : Instruction} (marker : m = .loopStart ∨ m = .loopEnd)
    (rest : List Instruction) : unrollAfter (some m) rest = unroll (m :: rest) := by
  rcases marker with rfl | rfl
  · simp [unrollAfter,unrollStart]
  · simp [unrollAfter,unrollEnd]

theorem blocksEmitted (opening : Option Instruction) (tokens : List Instruction) :
    (blocks opening tokens).flatMap Block.emitted = unrollAfter opening tokens := by
  fun_induction blocks opening tokens with
  | case1 opening tokens shape =>
    by_cases isOpen : opening = some .loopStart
    · simp [Block.emitted,unrollAfter,isOpen,copies,unrollOpen,shape]
    · have inBlock := unrollBlock tokens
      simp [Block.emitted,unrollAfter,isOpen,copiesOutside isOpen,inBlock,shape,unroll]
  | case2 opening tokens m rest shape ih =>
    rw [List.flatMap_cons,ih,unrollAfterMarker (afterBlockMarker shape)]
    by_cases isOpen : opening = some .loopStart
    · rcases afterBlockMarker shape with rfl | rfl
      · simp [Block.emitted,unrollAfter,isOpen,copies,unrollOpen,shape]
      · simp [Block.emitted,unrollAfter,isOpen,copies,unrollOpen,shape,unrollEnd]
    · rw [unrollAfter,if_neg isOpen,unrollBlock tokens,shape]
      simp [Block.emitted,copiesOutside isOpen]

theorem blocksMotions (opening : Option Instruction) (tokens : List Instruction) :
    ∀ b ∈ blocks opening tokens, ∀ x ∈ b.body, x.isMotion := by
  fun_induction blocks opening tokens with
  | case1 opening tokens shape =>
    intro b inside
    rw [List.mem_singleton.mp inside]
    exact blockAllMotions
  | case2 opening tokens m rest shape ih =>
    intro b inside
    rcases List.mem_cons.mp inside with rfl | later
    · exact blockAllMotions
    · exact ih b later

theorem expandBlocks (tokens : List Instruction) :
    expand tokens = (blocks none tokens).flatMap Block.emitted := by
  rw [blocksEmitted,expandUnroll]
  simp [unrollAfter]

theorem expandMotions (tokens : List Instruction) : ∀ x ∈ expand tokens, x.isMotion := by
  intro x emitted
  rw [expandBlocks] at emitted
  obtain ⟨b,inside,found⟩ := List.mem_flatMap.mp emitted
  obtain ⟨body,copy,member⟩ := List.mem_flatten.mp found
  rw [(List.mem_replicate.mp copy).2] at member
  exact blocksMotions none tokens b inside x member

def leftMarker (pre : List Instruction) : Option Instruction := pre.reverse.find? (!·.isMotion)

def rightMarker (post : List Instruction) : Option Instruction := post.find? (!·.isMotion)

theorem rightMarkerHead (post : List Instruction) : rightMarker post = (afterBlock post).head? := by
  induction post with
  | nil => rfl
  | cons i rest ih =>
    rcases motionOrMarker i with motion | rfl | rfl
    · rw [(blockMotion motion rest).2,← ih]
      simp [rightMarker,motion]
    all_goals rfl

theorem feedOpens (s : State) (i : Instruction) :
    (s.feed i).body.isSome = if i.isMotion then s.body.isSome else i == .loopStart := by
  obtain ⟨emitted,_ | body⟩ := s <;> cases i <;> rfl

theorem openAfter (s : State) (pre : List Instruction) :
    (pre.foldl State.feed s).body.isSome =
      (leftMarker pre).elim s.body.isSome (· == .loopStart) := by
  induction pre generalizing s with
  | nil => rfl
  | cons i rest ih =>
    have left : leftMarker (i :: rest) = (leftMarker rest).or (if i.isMotion then none else some i) := by
      rw [leftMarker,List.reverse_cons,List.find?_append,leftMarker]
      cases motion : i.isMotion <;> simp [motion]
    rw [List.foldl_cons,ih,left,feedOpens]
    cases leftMarker rest with
    | some m => rfl
    | none => cases i.isMotion <;> rfl

/- A motion at this place is emitted so many times: whichever motion stands there, the
output without it is cut into parts and the motion is put between them. -/
def EmittedTimes (times : Nat) (pre post : List Instruction) : Prop :=
  ∃ parts : List (List Instruction), parts.length = times + 1 ∧
    expand (pre ++ post) = parts.flatten ∧
    ∀ m : Instruction, m.isMotion → expand (pre ++ m :: post) = [m].intercalate parts

theorem emittedInBlock (emitted body post : List Instruction) :
    ∃ parts : List (List Instruction),
      parts.length = copies (some .loopStart) (rightMarker post) + 1 ∧
      emitted ++ unrollOpen body post = parts.flatten ∧
      ∀ m : Instruction, m.isMotion →
        emitted ++ unrollOpen body (m :: post) = [m].intercalate parts := by
  have moved {m : Instruction} (motion : m.isMotion) := unrollOpenMotion motion body post
  rw [rightMarkerHead]
  cases shape : afterBlock post with
  | nil =>
    refine ⟨[emitted ++ body,block post],rfl,by simp [unrollOpen,shape],?_⟩
    intro m motion
    rw [moved motion]
    simp [unrollOpen,shape]
  | cons marker rest =>
    rcases afterBlockMarker shape with rfl | rfl
    · refine ⟨[emitted ++ unroll (.loopStart :: rest)],rfl,by simp [unrollOpen,shape],?_⟩
      intro m motion
      rw [moved motion]
      simp [unrollOpen,shape]
    · refine ⟨[emitted ++ body,block post ++ body,block post ++ unroll rest],rfl,
        by simp [unrollOpen,shape],?_⟩
      intro m motion
      rw [moved motion]
      simp [unrollOpen,shape]

theorem motionEmitted (pre post : List Instruction) :
    EmittedTimes (copies (leftMarker pre) (rightMarker post)) pre post := by
  have isOpen := openAfter .initial pre
  simp only [EmittedTimes,expandSplit]
  generalize pre.foldl State.feed .initial = s at isOpen ⊢
  obtain ⟨emitted,_ | body⟩ := s
  · have outside : leftMarker pre ≠ some .loopStart := by
      intro marker
      simp [marker] at isOpen
    refine ⟨[emitted,unroll post],by simp [copiesOutside outside],by simp [State.outcome],?_⟩
    intro m motion
    simp [State.outcome,unrollMotion motion]
  · have inside : leftMarker pre = some .loopStart := by
      cases marker : leftMarker pre with
      | none => simp [marker,State.initial] at isOpen
      | some m => simpa [marker] using isOpen
    rw [inside]
    exact emittedInBlock emitted body post

theorem expandFollowsGrammar (tokens : List Instruction) :
    expand tokens = unroll tokens ∧
    (expand tokens = (blocks none tokens).flatMap Block.emitted ∧
      (blocks none tokens).flatMap Block.source = tokens ∧
      ∀ b ∈ blocks none tokens, ∀ x ∈ b.body, x.isMotion) ∧
    (∀ pre m post, tokens = pre ++ m :: post → m.isMotion →
      EmittedTimes (copies (leftMarker pre) (rightMarker post)) pre post) ∧
    ∀ x ∈ expand tokens, x.isMotion :=
  ⟨expandUnroll tokens,
    ⟨expandBlocks tokens,blocksSource none tokens,blocksMotions none tokens⟩,
    fun pre _ post _ _ => motionEmitted pre post,expandMotions tokens⟩

/- The first block is dropped, the second doubled, and the stray end does nothing. -/
example : expand [.loopStart,.advance,.loopStart,.turnLeft,.loopEnd,.loopEnd,.turnRight] =
    [.turnLeft,.turnLeft,.turnRight] := by decide

end GridRobot.Expansion
