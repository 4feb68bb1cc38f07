import GridRobot.Proofs.Session

/-! Ticks in a row. A session ticked some number of times is read off the calls of its
engine; from there a run that has just begun is known at every tick, up to its end and
past it. -/
namespace GridRobot.Session

def afterTicks (s : Session) : Nat → Session
  | 0 => s
  | n + 1 => (afterTicks s n).tick.2

theorem afterTicksAdd (s : Session) (m n : Nat) :
    s.afterTicks (m + n) = (s.afterTicks m).afterTicks n := by
  induction n with
  | zero => rfl
  | succ n ih => exact congrArg (fun later => later.tick.2) ih

theorem tickFirst (s : Session) (n : Nat) : s.tick.2.afterTicks n = s.afterTicks (n + 1) := by
  rw [Nat.add_comm]
  exact (afterTicksAdd s 1 n).symm

theorem afterTicksCalls (s : Session) (n : Nat) :
    s.afterTicks n = { s with
      engine := (s.engine.afterCalls s.track s.robot n).1
      robot := (s.engine.afterCalls s.track s.robot n).2 } := by
  induction n with
  | zero => rfl
  | succ n ih => rw [afterTicks,ih]; rfl

theorem begunCalls (s : Session) (n : Nat) :
    s.begun.afterTicks n = { s with
      engine := ((s.engine.within s.program.expand 0).afterCalls s.track s.robot n).1
      robot := ((s.engine.within s.program.expand 0).afterCalls s.track s.robot n).2 } :=
  afterTicksCalls s.begun n

section Begun
variable {s : Session} {stop : Nat} (walk : s.robot.StopsAt s.track s.program.expand stop)
include walk

theorem begunBefore {n : Nat} (before : n ≤ stop) :
    s.begun.afterTicks n = { s with
      engine := s.engine.within s.program.expand n
      robot := s.robot.followAll (s.program.expand.take n) } := by
  rw [begunCalls,Engine.callsBefore s.engine walk before]

theorem begunAfter {n : Nat} (after : stop < n) :
    s.begun.afterTicks n = { s with
      engine := s.engine.ended s.program.expand stop
      robot := s.robot.followAll (s.program.expand.take stop) } := by
  rw [begunCalls,Engine.callsAfter s.engine walk after]

theorem begunRunning (n : Nat) : (s.begun.afterTicks n).isRunning = decide (n ≤ stop) := by
  by_cases before : n ≤ stop
  · rw [begunBefore walk before,decide_eq_true before]
    rfl
  · rw [begunAfter walk (Nat.lt_of_not_le before),decide_eq_false before]
    exact s.engine.endedIdle s.program.expand stop

end Begun

theorem courseTicks {s : Session} {ticks : Nat}
    (running : ∀ n, n < ticks → (s.afterTicks n).isRunning = true)
    (ended : (s.afterTicks ticks).isRunning = false) :
    s.course = (List.range ticks).map fun n => (s.afterTicks n).next := by
  induction ticks generalizing s with
  | zero => rw [course,dif_neg (by simpa [afterTicks] using ended)]; rfl
  | succ ticks ih =>
    have now : s.isRunning = true := running 0 (Nat.succ_pos _)
    -- the course goes on from the session after the first tick
    have later := ih (s := s.tick.2)
      (fun n inside => by rw [tickFirst]; exact running (n + 1) (Nat.succ_lt_succ inside))
      (by rw [tickFirst]; exact ended)
    rw [course,dif_pos now,List.range_succ_eq_map,List.map_cons,List.map_map]
    refine congrArg (s.next :: ·) (later.trans (List.map_congr_left ?_))
    intro n _
    rw [tickFirst]
    rfl

end GridRobot.Session
