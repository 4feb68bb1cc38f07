import GridRobot.Engine
import GridRobot.Proofs.Walk
import GridRobot.Track.Presets

/-! Runs of the engine. First what a start and a step can do, one statement for each way
they can go; then a whole run, call by call, against the walk of its program: the calls
before the stop commit one instruction each, the call at the stop ends the run, and those
after it do nothing. -/
namespace GridRobot.Engine

def refusal? (e : Engine) (p : Program) (t : Track) (r : Robot) (configuring : Bool) :
    Option RunRefusal :=
  if e.isRunning then some .alreadyRunning
  else if p.isEmpty then some .emptyProgram
  else if configuring then some .configuring
  else if t.traversable r.position then none
  else some (.notOnTrack r.position)

section Request
variable {e : Engine} {p : Program} {t : Track} {r : Robot} {configuring : Bool}

theorem refusalNone :
    e.refusal? p t r configuring = none ↔
      e.isRunning = false ∧ p.isEmpty = false ∧ configuring = false ∧
        t.traversable r.position = true := by
  unfold refusal?
  cases e.isRunning <;> cases p.isEmpty <;> cases configuring <;>
    cases t.traversable r.position <;> simp

theorem refusalOffTrack {position : Position} :
    e.refusal? p t r configuring = some (.notOnTrack position) ↔
      e.isRunning = false ∧ p.isEmpty = false ∧ configuring = false ∧
        t.traversable r.position = false ∧ position = r.position := by
  unfold refusal?
  cases e.isRunning <;> cases p.isEmpty <;> cases configuring <;>
    cases t.traversable r.position <;> simp [eq_comm]

theorem requestGuarded (e : Engine) (p : Program) (t : Track) (r : Robot) (configuring : Bool) :
    e.request p t r configuring =
      match e.refusal? p t r configuring with
      | some refusal => (.error refusal,e)
      | none => (.ok p.expand.length,e.hold ⟨p.expand,0⟩) := by
  have resting : e.state.acceptsRun = !e.isRunning := rfl
  unfold request refusal?
  rw [resting]
  cases e.isRunning <;> cases p.isEmpty <;> cases configuring <;>
    cases t.traversable r.position <;> rfl

theorem startGuarded (e : Engine) (p : Program) (t : Track) (r : Robot) (configuring : Bool) :
    e.start p t r configuring =
      match e.refusal? p t r configuring with
      | some refusal => .error refusal
      | none => .ok (p.expand.length,e.hold ⟨p.expand,0⟩) := by
  rw [start,requestGuarded]
  cases e.refusal? p t r configuring <;> rfl

theorem startAccepted {e' : Engine} {n : Nat} (started : e.start p t r configuring = .ok (n,e')) :
    e.refusal? p t r configuring = none ∧ n = p.expand.length ∧ e' = e.hold ⟨p.expand,0⟩ := by
  rw [startGuarded] at started
  split at started
  · contradiction
  · rename_i accepted
    cases started
    exact ⟨accepted,rfl,rfl⟩

theorem startRefused {refusal : RunRefusal} :
    e.start p t r configuring = .error refusal ↔
      e.refusal? p t r configuring = some refusal := by
  rw [startGuarded]
  cases e.refusal? p t r configuring <;> simp

end Request

section Step
variable {e : Engine} {run : Run} {t : Track} {r : Robot} {i : Instruction}

theorem stepCommits {r' : Robot} (held : e.run? = some run)
    (token : run.sequence[run.cursor]? = some i) (obeyed : r.obey? t i = some r') :
    e.step t r = (.stepped run.cursor i r' (e.timing.delayFor i),e.advance,r') := by
  simp only [step,held,token,obeyed]

theorem stepFails (held : e.run? = some run)
    (token : run.sequence[run.cursor]? = some i) (refused : r.obey? t i = none) :
    e.step t r = (.failed ⟨run.cursor,r.position,r.heading⟩,e.finish .failed,r) := by
  simp only [step,held,token,refused]
  rfl

theorem stepCompletes (held : e.run? = some run)
    (exhausted : run.sequence[run.cursor]? = none) :
    e.step t r = (.completed run.cursor,e.finish .completed,r) := by
  simp only [step,held,exhausted]

theorem runningState (held : e.run? = some run) : e.state = .running :=
  e.coupled.mpr (Option.isSome_iff_exists.mpr ⟨run,held⟩)

theorem advanceHeld (held : e.run? = some run) : e.advance.run? = some run.advance :=
  congrArg (Option.map Run.advance) held

theorem restingNone : e.isRunning = false ↔ e.run? = none := by
  rw [← Option.not_isSome_iff_eq_none,Option.isSome_iff_exists,← runHeld,Bool.not_eq_true]

theorem stepIdle (resting : e.isRunning = false) : e.step t r = (.idle,e,r) := by
  simp only [step,restingNone.mp resting]

end Step

inductive Steps (t : Track) (e : Engine) (r : Robot) : StepOutcome → Engine → Robot → Prop where
  | commits {run i r'} (held : e.run? = some run) (token : run.sequence[run.cursor]? = some i)
      (obeyed : r.obey? t i = some r') :
      Steps t e r (.stepped run.cursor i r' (e.timing.delayFor i)) e.advance r'
  | fails {run i} (held : e.run? = some run) (token : run.sequence[run.cursor]? = some i)
      (refused : r.obey? t i = none) :
      Steps t e r (.failed ⟨run.cursor,r.position,r.heading⟩) (e.finish .failed) r
  | completes {run} (held : e.run? = some run) (exhausted : run.sequence[run.cursor]? = none) :
      Steps t e r (.completed run.cursor) (e.finish .completed) r
  | idle (resting : e.isRunning = false) : Steps t e r .idle e r

theorem stepSteps (e : Engine) (t : Track) (r : Robot) :
    Steps t e r (e.step t r).1 (e.step t r).2.1 (e.step t r).2.2 := by
  cases held : e.run? with
  | none =>
    have resting := restingNone.mpr held
    rw [stepIdle resting]
    exact .idle resting
  | some run =>
    cases token : run.sequence[run.cursor]? with
    | none => rw [stepCompletes held token]; exact .completes held token
    | some i =>
      cases obeyed : r.obey? t i with
      | none => rw [stepFails held token obeyed]; exact .fails held token obeyed
      | some r' => rw [stepCommits held token obeyed]; exact .commits held token obeyed

def afterCalls (e : Engine) (t : Track) (r : Robot) : Nat → Engine × Robot
  | 0 => (e,r)
  | n + 1 => ((afterCalls e t r n).1.step t (afterCalls e t r n).2).2

def call (e : Engine) (t : Track) (r : Robot) (n : Nat) : StepOutcome :=
  ((e.afterCalls t r n).1.step t (e.afterCalls t r n).2).1

def within (e : Engine) (sequence : List Instruction) (taken : Nat) : Engine :=
  e.hold ⟨sequence,taken⟩

def ended (e : Engine) (sequence : List Instruction) (stop : Nat) : Engine :=
  if stop = sequence.length then e.finish .completed else e.finish .failed

section Calls
variable (e : Engine) {t : Track} {r : Robot} {sequence : List Instruction} {stop : Nat}

theorem callsBefore (walk : r.StopsAt t sequence stop) {n : Nat} (before : n ≤ stop) :
    (e.within sequence 0).afterCalls t r n = (e.within sequence n,r.followAll (sequence.take n)) := by
  induction n with
  | zero => rfl
  | succ n ih =>
    obtain ⟨i,token⟩ : ∃ i, sequence[n]? = some i :=
      ⟨_,List.getElem?_eq_getElem (Nat.lt_of_lt_of_le before walk.within)⟩
    have obeyed := Robot.obeyFree (walk.free n i before token)
    rw [afterCalls,ih (Nat.le_of_succ_le before),stepCommits rfl token obeyed,
      Robot.followAllSucc r token]
    rfl

theorem callCommits (walk : r.StopsAt t sequence stop) {n : Nat} {i : Instruction}
    (before : n < stop) (token : sequence[n]? = some i) :
    (e.within sequence 0).call t r n =
      .stepped n i (r.followAll (sequence.take (n + 1))) (e.timing.delayFor i) := by
  have obeyed := Robot.obeyFree (walk.free n i before token)
  rw [call,callsBefore e walk (Nat.le_of_lt before),stepCommits rfl token obeyed,
    Robot.followAllSucc r token]
  rfl

theorem callEnds (walk : r.StopsAt t sequence stop) :
    (e.within sequence stop).step t (r.followAll (sequence.take stop)) =
      (if stop = sequence.length then .completed stop
        else .failed ⟨stop,(r.followAll (sequence.take stop)).position,
          (r.followAll (sequence.take stop)).heading⟩,
        e.ended sequence stop,r.followAll (sequence.take stop)) := by
  unfold ended
  split
  · rename_i all
    rw [stepCompletes rfl (List.getElem?_eq_none (Nat.le_of_eq all.symm))]
    rfl
  · rename_i early
    have inside : stop < sequence.length := Nat.lt_of_le_of_ne walk.within early
    have token := List.getElem?_eq_getElem inside
    rw [stepFails rfl token (Robot.obeyBlocked (walk.blocked _ token))]
    rfl

theorem endedIdle (sequence : List Instruction) (stop : Nat) :
    (e.ended sequence stop).isRunning = false := by
  unfold ended
  split <;> rfl

theorem endedState (sequence : List Instruction) (stop : Nat) :
    (e.ended sequence stop).state = if stop = sequence.length then .completed else .failed := by
  unfold ended
  split <;> rfl

theorem callsAfter (walk : r.StopsAt t sequence stop) {n : Nat} (after : stop < n) :
    (e.within sequence 0).afterCalls t r n =
      (e.ended sequence stop,r.followAll (sequence.take stop)) := by
  induction n with
  | zero => contradiction
  | succ n ih =>
    rcases Nat.lt_or_eq_of_le (Nat.le_of_lt_succ after) with later | rfl
    · rw [afterCalls,ih later,stepIdle (e.endedIdle sequence stop)]
    -- the call at the stop is the one that finds the end
    · rw [afterCalls,callsBefore e walk (Nat.le_refl _),callEnds e walk]

end Calls

/- The calls on an engine that has just been started, read off the walk of its sequence.
Calls are counted from zero, so call `n` takes the instruction at place `n`. -/
structure CallsFollow (e : Engine) (t : Track) (r : Robot) (timing : Timing)
    (sequence : List Instruction) (stop : Nat) : Prop where
  commits : ∀ n i, n < stop → sequence[n]? = some i →
    e.call t r n = .stepped n i (r.followAll (sequence.take (n + 1))) (timing.delayFor i)
  robots : ∀ n, n ≤ stop → (e.afterCalls t r n).2 = r.followAll (sequence.take n)
  ends : e.call t r stop =
    if stop = sequence.length then .completed sequence.length
    else .failed ⟨stop,(r.followAll (sequence.take stop)).position,
      (r.followAll (sequence.take stop)).heading⟩
  rests : (e.afterCalls t r (stop + 1)).2 = r.followAll (sequence.take stop) ∧
    (e.afterCalls t r (stop + 1)).1.state =
      (if stop = sequence.length then .completed else .failed) ∧
    (e.afterCalls t r (stop + 1)).1.remaining = 0
  silent : ∀ n, stop < n →
    e.call t r n = .idle ∧ e.afterCalls t r (n + 1) = e.afterCalls t r (stop + 1)

theorem withinCallsFollow (e : Engine) {t : Track} {r : Robot} {sequence : List Instruction}
    {stop : Nat} (walk : r.StopsAt t sequence stop) :
    (e.within sequence 0).CallsFollow t r e.timing sequence stop where
  commits _ _ before token := callCommits e walk before token
  robots _ before := by rw [callsBefore e walk before]
  ends := by
    rw [call,callsBefore e walk (Nat.le_refl _),callEnds e walk]
    split
    · rename_i all
      rw [all]
    · rfl
  rests := by
    rw [callsAfter e walk (Nat.lt_succ_self _)]
    unfold ended
    split <;> exact ⟨rfl,rfl,rfl⟩
  silent n after := by
    have now := callsAfter e walk after
    have next := callsAfter e walk (Nat.lt_succ_of_lt after)
    have first := callsAfter e walk (Nat.lt_succ_self stop)
    refine ⟨?_,by rw [next,first]⟩
    rw [call,now,stepIdle (e.endedIdle sequence stop)]

theorem runFollowsWalk {e e' : Engine} {p : Program} {t : Track} {r : Robot} {n : Nat}
    (started : e.start p t r false = .ok (n,e')) :
    n = p.expand.length ∧
    ∃ stop, r.StopsAt t p.expand stop ∧ e'.CallsFollow t r e.timing p.expand stop := by
  obtain ⟨_,length,rfl⟩ := startAccepted started
  obtain ⟨stop,walk⟩ := Robot.stopsSomewhere t r p.expand
  exact ⟨length,stop,walk,withinCallsFollow e walk⟩

theorem runFollowsWalkOffTrack :
    ∃ e', (Engine.new .standard).start ⟨[.loopStart,.advance,.turnLeft,.loopEnd]⟩ .corner
        (.parkedOn .origin) false = .ok (4,e') ∧
      4 = (Program.mk [.loopStart,.advance,.turnLeft,.loopEnd]).expand.length ∧
      ∃ stop, (Robot.parkedOn .origin).StopsAt .corner
          (Program.mk [.loopStart,.advance,.turnLeft,.loopEnd]).expand stop ∧
        e'.CallsFollow .corner (.parkedOn .origin) .standard
          (Program.mk [.loopStart,.advance,.turnLeft,.loopEnd]).expand stop := by
  have started : (Engine.new .standard).start ⟨[.loopStart,.advance,.turnLeft,.loopEnd]⟩ .corner
      (.parkedOn .origin) false =
        .ok (4,(Engine.new .standard).hold ⟨[.advance,.turnLeft,.advance,.turnLeft],0⟩) := rfl
  exact ⟨_,started,runFollowsWalk started⟩

end GridRobot.Engine
