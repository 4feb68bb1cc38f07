import GridRobot.Proofs.Admission
import GridRobot.Proofs.Appending

/-! Runs in succession. Read off the tokens that are left, a run is a recursion on them: what it says
of a list of tokens is said again of any longer list, up to where the list ends. So two runs one
after the other are one run of both programs, if the first program leaves no block open. -/
namespace GridRobot

def Program.followedBy (p q : Program) : Program := ⟨p.instructions ++ q.instructions⟩

theorem Program.expandFollowed {p : Program}
    (outside : Expansion.leftMarker p.instructions ≠ some .loopStart) (q : Program) :
    (p.followedBy q).expand = p.expand ++ q.expand :=
  Expansion.expandAppend outside q.instructions

namespace StepOutcome

def raised (taken : Nat) : StepOutcome → StepOutcome
  | .stepped n i r delay => .stepped (taken + n) i r delay
  | .completed steps => .completed (taken + steps)
  | .failed ⟨n,origin,heading⟩ => .failed ⟨taken + n,origin,heading⟩
  | .idle => .idle

def committed? : StepOutcome → Option Instruction
  | .stepped _ i _ _ => some i
  | _ => none

end StepOutcome

namespace Engine

abbrev Record := List StepOutcome × Engine × Robot

/- A run from the token at place `n` on, read off the tokens that are left. An engine that has
ended a run is told from a new one by its state alone. -/
def trail (t : Track) (timing : Timing) : Nat → Robot → List Instruction → Record
  | n,r,[] => ([.completed n],(new timing).finish .completed,r)
  | n,r,i :: rest =>
    match r.obey? t i with
    | none => ([.failed ⟨n,r.position,r.heading⟩],(new timing).finish .failed,r)
    | some r' =>
      let later := trail t timing (n + 1) r' rest
      (.stepped n i r' (timing.delayFor i) :: later.1,later.2)

section Drain
variable {e e' : Engine} {t : Track} {r r' : Robot}

theorem drainStepped {n : Nat} {i : Instruction} {told : Robot} {delay : Nat}
    (once : e.step t r = (.stepped n i told delay,e',r')) :
    e.drain t r = (.stepped n i told delay :: (e'.drain t r').1,(e'.drain t r').2) := by
  rw [drain.eq_def]
  split
  · rename_i same
    rw [once] at same
    cases same
    rfl
  · rename_i other same
    rw [once] at same
    cases same
    exact (other _ _ _ _ _ _ rfl rfl).elim

theorem drainEnds {outcome : StepOutcome} (once : e.step t r = (outcome,e',r'))
    (ends : outcome.committed? = none) : e.drain t r = ([outcome],e',r') := by
  rw [drain.eq_def]
  split
  · rename_i same
    rw [once] at same
    cases same
    contradiction
  · rename_i same
    rw [once] at same
    cases same
    rfl

end Drain

section Trail
variable (t : Track)

theorem drainTrail (e : Engine) (sequence : List Instruction) (n : Nat) (r : Robot) :
    (e.within sequence n).drain t r = trail t e.timing n r (sequence.drop n) := by
  induction left : sequence.drop n generalizing n r with
  | nil =>
    have exhausted : sequence[n]? = none := List.getElem?_eq_none (List.drop_eq_nil_iff.mp left)
    rw [drainEnds (stepCompletes rfl exhausted) rfl]
    rfl
  | cons i rest ih =>
    have token : sequence[n]? = some i := by
      rw [← List.head?_drop,left]
      rfl
    have further : sequence.drop (n + 1) = rest := by
      rw [← List.tail_drop,left]
      rfl
    cases obeyed : r.obey? t i with
    | none =>
      rw [drainEnds (stepFails rfl token obeyed) rfl]
      simp only [trail,obeyed]
      rfl
    | some r' =>
      rw [drainStepped (stepCommits rfl token obeyed)]
      simp only [trail,obeyed]
      exact congrArg (fun later => (_ :: later.1,later.2)) (ih (n + 1) r' further)

theorem trailRaised (timing : Timing) (taken n : Nat) (r : Robot) (tokens : List Instruction) :
    trail t timing (taken + n) r tokens =
      ((trail t timing n r tokens).1.map (.raised taken),(trail t timing n r tokens).2) := by
  induction tokens generalizing n r with
  | nil => rfl
  | cons i rest ih =>
    cases obeyed : r.obey? t i with
    | none => simp only [trail,obeyed]; rfl
    | some r' =>
      have later := ih (n + 1) r'
      rw [← Nat.add_assoc] at later
      simp only [trail,obeyed,later]
      rfl

/- All tokens are committed, and more of them are taken from where the robot is then; or the run
fails, and whatever comes after it is never reached. -/
inductive Trails (timing : Timing) (n : Nat) (r : Robot) (tokens : List Instruction) : Prop where
  | completed (steps : List StepOutcome) (r' : Robot)
      (alone : trail t timing n r tokens =
        (steps ++ [.completed (n + tokens.length)],(new timing).finish .completed,r'))
      (commits : steps.map StepOutcome.committed? = tokens.map some)
      (stays : t.traversable r.position = true → t.traversable r'.position = true)
      (longer : ∀ more, trail t timing n r (tokens ++ more) =
        (steps ++ (trail t timing (n + tokens.length) r' more).1,
          (trail t timing (n + tokens.length) r' more).2))
  | failed (steps : List StepOutcome) (reason : OffTrack) (r' : Robot)
      (alone : trail t timing n r tokens =
        (steps ++ [.failed reason],(new timing).finish .failed,r'))
      (longer : ∀ more, trail t timing n r (tokens ++ more) = trail t timing n r tokens)

theorem trailTrails (timing : Timing) (n : Nat) (r : Robot) (tokens : List Instruction) :
    Trails t timing n r tokens := by
  induction tokens generalizing n r with
  | nil => exact .completed [] r rfl rfl id fun _ => rfl
  | cons i rest ih =>
    cases obeyed : r.obey? t i with
    | none =>
      refine .failed [] ⟨n,r.position,r.heading⟩ r ?_ fun more => ?_
      · simp only [trail,obeyed,List.nil_append]
      · simp only [List.cons_append,trail,obeyed]
    | some r' =>
      have further : n + (i :: rest).length = n + 1 + rest.length := by
        rw [List.length_cons]
        omega
      cases ih (n + 1) r' with
      | completed steps last alone commits stays longer =>
        refine .completed (.stepped n i r' (timing.delayFor i) :: steps) last ?_ ?_
          (fun on => stays (Robot.obeyTraversable on obeyed)) fun more => ?_
        · simp only [trail,obeyed,alone,further,List.cons_append]
        · rw [List.map_cons,commits]
          rfl
        · simp only [List.cons_append,trail,obeyed,longer,further]
      | failed steps reason last alone longer =>
        refine .failed (.stepped n i r' (timing.delayFor i) :: steps) reason last ?_ fun more => ?_
        · simp only [trail,obeyed,alone,List.cons_append]
        · simp only [List.cons_append,trail,obeyed,longer]

end Trail

def runThrough (e : Engine) (p : Program) (t : Track) (r : Robot) :
    Except RunRefusal Record :=
  (e.start p t r false).map fun (_,begun) => begun.drain t r

theorem runThroughTrail {e : Engine} (resting : e.isRunning = false) {p : Program}
    (filled : p.instructions ≠ []) {t : Track} {r : Robot} (on : t.traversable r.position = true) :
    e.runThrough p t r = .ok (trail t e.timing 0 r p.expand) := by
  have some : p.isEmpty = false := by simpa [Program.isEmpty] using filled
  have accepted := refusalNone.mpr ⟨resting,some,rfl,on⟩
  rw [runThrough,startGuarded,accepted]
  exact congrArg Except.ok (drainTrail t e p.expand 0 r)

inductive RunsJoin (e : Engine) (p q : Program) (t : Track) (r : Robot) : Prop where
  | completed {steps e' r' told e'' r''}
      (first : e.runThrough p t r = .ok (steps ++ [.completed p.expand.length],e',r'))
      (commits : steps.map StepOutcome.committed? = p.expand.map some)
      (state : e'.state = .completed)
      (second : e'.runThrough q t r' = .ok (told,e'',r''))
      (afresh : (new e.timing).runThrough q t r' = .ok (told,e'',r''))
      (whole : e.runThrough (p.followedBy q) t r =
        .ok (steps ++ told.map (.raised p.expand.length),e'',r''))
  | failed {steps reason e' r'}
      (first : e.runThrough p t r = .ok (steps ++ [.failed reason],e',r'))
      (state : e'.state = .failed)
      (whole : e.runThrough (p.followedBy q) t r = .ok (steps ++ [.failed reason],e',r'))

theorem runsJoin {e : Engine} (resting : e.isRunning = false) {p q : Program}
    (filled : p.instructions ≠ []) (more : q.instructions ≠ [])
    (outside : Expansion.leftMarker p.instructions ≠ some .loopStart) {t : Track} {r : Robot}
    (on : t.Covers r.position) : RunsJoin e p q t r := by
  have on := Track.traversableCovers.mpr on
  have both : (p.followedBy q).instructions ≠ [] := List.append_ne_nil_of_left_ne_nil filled _
  have first := runThroughTrail resting filled on
  have whole := runThroughTrail resting both on
  rw [Program.expandFollowed outside] at whole
  cases trailTrails t e.timing 0 r p.expand with
  | completed steps r' alone commits stays longer =>
    -- the second run begins where the first has come to its end
    have raised := trailRaised t e.timing p.expand.length 0 r' q.expand
    rw [Nat.zero_add] at alone
    simp only [longer,Nat.zero_add] at whole
    rw [Nat.add_zero] at raised
    rw [raised] at whole
    rw [alone] at first
    exact .completed first commits rfl (runThroughTrail rfl more (stays on))
      (runThroughTrail rfl more (stays on)) whole
  | failed steps reason r' alone longer =>
    rw [longer,alone] at whole
    rw [alone] at first
    exact .failed first rfl whole

def twoAhead : Program := ⟨[.loopStart,.turnLeft,.loopStart,.advance,.loopEnd,.turnRight,.turnLeft]⟩

def threeAhead : Program := ⟨[.loopEnd,.advance,.loopStart,.advance,.advance]⟩

/- Both programs go along the upper row, and the last token of the second leaves it. -/
theorem twoAheadThenThree :
    (new .standard).isRunning = false ∧ twoAhead.instructions ≠ [] ∧ threeAhead.instructions ≠ [] ∧
    Expansion.leftMarker twoAhead.instructions ≠ some .loopStart ∧
    Track.hook.Covers ⟨0,4⟩ ∧ RunsJoin (new .standard) twoAhead threeAhead .hook ⟨⟨0,4⟩,.west⟩ ∧
    ((new .standard).runThrough (twoAhead.followedBy threeAhead) .hook ⟨⟨0,4⟩,.west⟩).map
        (·.1.getLast?) = .ok (some (.failed ⟨6,⟨0,0⟩,.west⟩)) := by
  have outside : Expansion.leftMarker twoAhead.instructions ≠ some .loopStart := by decide
  have on : Track.hook.traversable ⟨0,4⟩ = true := by decide +kernel
  have covers := Track.traversableCovers.mp on
  refine ⟨rfl,by decide,by decide,outside,covers,
    runsJoin rfl (by decide) (by decide) outside covers,?_⟩
  rw [runThroughTrail rfl (by decide) on]
  decide +kernel

end Engine
end GridRobot
