import GridRobot.Proofs.Expansion
import GridRobot.Proofs.Ticks
import Mathlib.Algebra.GroupWithZero.Nat

/-! Playback, call by call. What a whole play asks of its presenter and its clock is read
off the walk of the program: each instruction that can be followed is shown and waited
for, and whatever stops the walk is only announced. -/
namespace GridRobot

def Call.isRender : Call → Bool
  | .render .. => true
  | _ => false

def Call.pause : Call → Nat
  | .sleep delay => delay
  | _ => 0

namespace Session

def showing (t : Track) (timing : Timing) : Robot → List Instruction → List Call
  | _, [] => []
  | r, i :: rest =>
    [.render t (r.follow i),.sleep (timing.delayFor i)] ++ showing t timing (r.follow i) rest

theorem showingAppend (t : Track) (timing : Timing) (r : Robot) (before after : List Instruction) :
    showing t timing r (before ++ after) =
      showing t timing r before ++ showing t timing (r.followAll before) after := by
  induction before generalizing r with
  | nil => rfl
  | cons i rest ih => simp [showing,ih (r.follow i),Robot.followAll]

theorem showingRenders (t : Track) (timing : Timing) (r : Robot) (instructions : List Instruction) :
    (showing t timing r instructions).countP Call.isRender = instructions.length := by
  induction instructions generalizing r with
  | nil => rfl
  | cons i rest ih =>
    rw [showing,List.countP_append,ih (r.follow i),List.length_cons,Nat.add_comm]
    rfl

theorem showingPauses {instructions : List Instruction} (motions : ∀ i ∈ instructions, i.isMotion)
    (t : Track) (timing : Timing) (r : Robot) :
    ((showing t timing r instructions).map Call.pause).sum =
      timing.turn * (instructions.count .turnLeft + instructions.count .turnRight) +
        timing.step * instructions.count .advance := by
  induction instructions generalizing r with
  | nil => rfl
  | cons i rest ih =>
    have later := ih (fun j inside => motions j (List.mem_cons_of_mem _ inside)) (r.follow i)
    have motion := motions i List.mem_cons_self
    rw [showing,List.map_append,List.sum_append,later]
    cases i with
    | turnLeft | turnRight | advance =>
      simp only [Call.pause,Timing.delayFor,List.map_cons,List.map_nil,List.sum_cons,List.sum_nil,
        List.count_cons_self,List.count_cons_of_ne,Nat.mul_add,Nat.mul_one,Nat.add_zero,
        Nat.zero_add,ne_eq,reduceCtorEq,not_false_eq_true]
      omega
    | loopStart | loopEnd => contradiction

theorem courseShows {s : Session} {stop : Nat}
    (walk : s.robot.StopsAt s.track s.program.expand stop) {n : Nat} (before : n ≤ stop) :
    (List.range n).flatMap (fun k => (s.begun.afterTicks k).next.calls) =
      showing s.track s.engine.timing s.robot (s.program.expand.take n) := by
  induction n with
  | zero => rfl
  | succ n ih =>
    obtain ⟨i,token⟩ : ∃ i, s.program.expand[n]? = some i :=
      ⟨_,List.getElem?_eq_getElem (Nat.lt_of_lt_of_le before walk.within)⟩
    have obeyed := Robot.obeyFree (walk.free n i before token)
    have step := Engine.stepCommits (e := s.engine.within s.program.expand n) rfl token obeyed
    have calls : (s.begun.afterTicks n).next.calls =
        showing s.track s.engine.timing (s.robot.followAll (s.program.expand.take n)) [i] := by
      rw [begunBefore walk (Nat.le_of_succ_le before),next]
      dsimp only
      rw [step]
      rfl
    rw [List.range_succ,List.flatMap_append,ih (Nat.le_of_succ_le before),List.take_add_one,token,
      Option.toList_some,showingAppend,List.flatMap_singleton,calls]

def closing (s : Session) (stop : Nat) : Notice :=
  if stop = s.program.expand.length then .accomplished else .offTrack

theorem courseCloses {s : Session} {stop : Nat}
    (walk : s.robot.StopsAt s.track s.program.expand stop) :
    (s.begun.afterTicks stop).next.calls = [.notify (s.closing stop)] := by
  rw [begunBefore walk (Nat.le_refl _),next]
  dsimp only
  rw [Engine.callEnds s.engine walk,closing]
  split <;> rfl

theorem begunCourse {s : Session} {stop : Nat}
    (walk : s.robot.StopsAt s.track s.program.expand stop) :
    s.begun.course = (List.range (stop + 1)).map fun n => (s.begun.afterTicks n).next := by
  refine courseTicks (fun n inside => ?_) ?_
  · rw [begunRunning walk,decide_eq_true (Nat.le_of_lt_succ inside)]
  · rw [begunRunning walk,decide_eq_false (Nat.not_succ_le_self stop)]

theorem playGranted {s : Session} {stop : Nat}
    (granted : s.engine.refusal? s.program s.track s.robot s.configMode = none)
    (walk : s.robot.StopsAt s.track s.program.expand stop) :
    s.play = ⟨.ok (s.begun.afterTicks (stop + 1)).state,[.clearNotice,.render s.track s.robot],
      (List.range (stop + 1)).map fun n => (s.begun.afterTicks n).next,
      s.begun.afterTicks (stop + 1)⟩ := by
  unfold play
  rw [requestGranted granted]
  dsimp only
  rw [begunCourse walk,List.range_succ,List.map_append,List.getLast?_append]
  rfl

def announced : RunRefusal → List Call
  | .notOnTrack _ => [.notify .notOnTrack]
  | .alreadyRunning | .emptyProgram | .configuring => []

structure Declines (s : Session) (refusal : RunRefusal) : Prop where
  result : s.play.result = .error refusal
  session : s.play.session = s
  calls : s.play.calls = announced refusal

/- A play whose run is granted and stops at `stop`: as many steps are taken, and one more
tick finds the end. -/
structure Plays (s : Session) (stop : Nat) : Prop where
  walk : s.robot.StopsAt s.track s.program.expand stop
  ticks : s.play.course.length = stop + 1
  calls : s.play.calls =
    [.clearNotice,.render s.track s.robot] ++
      showing s.track s.engine.timing s.robot (s.program.expand.take stop) ++
      [.notify (s.closing stop)]
  result : s.play.result =
    .ok (if stop = s.program.expand.length then .completed else .failed)
  session : s.play.session = { s with
    engine := s.engine.ended s.program.expand stop
    robot := s.robot.followAll (s.program.expand.take stop) }
  renders : s.play.calls.countP Call.isRender = stop + 1
  pauses : (s.play.calls.map Call.pause).sum =
    s.engine.timing.turn * ((s.program.expand.take stop).count .turnLeft +
        (s.program.expand.take stop).count .turnRight) +
      s.engine.timing.step * (s.program.expand.take stop).count .advance

theorem declinesRefused {s : Session} {refusal : RunRefusal}
    (refused : s.engine.refusal? s.program s.track s.robot s.configMode = some refusal) :
    s.Declines refusal := by
  have played : s.play = ⟨.error refusal,s.apply (refusalEffects refusal),[],s⟩ := by
    unfold play
    rw [requestRefused refused]
  refine ⟨congrArg Playback.result played,congrArg Playback.session played,?_⟩
  rw [played]
  cases refusal <;> rfl

theorem playsGranted {s : Session} {stop : Nat}
    (granted : s.engine.refusal? s.program s.track s.robot s.configMode = none)
    (walk : s.robot.StopsAt s.track s.program.expand stop) : s.Plays stop := by
  have played := playGranted granted walk
  have calls : s.play.calls =
      [.clearNotice,.render s.track s.robot] ++
        showing s.track s.engine.timing s.robot (s.program.expand.take stop) ++
        [.notify (s.closing stop)] := by
    rw [played,Playback.calls,List.flatMap_map,List.range_succ,List.flatMap_append,
      courseShows walk (Nat.le_refl _),List.flatMap_singleton,courseCloses walk,List.append_assoc]
  have shown := showingRenders s.track s.engine.timing s.robot (s.program.expand.take stop)
  have motions : ∀ i ∈ s.program.expand.take stop, i.isMotion := fun i inside =>
    Expansion.expandMotions s.program.instructions i (List.mem_of_mem_take inside)
  have waited := showingPauses motions s.track s.engine.timing s.robot
  exact {
    walk := walk
    ticks := by rw [played]; simp
    calls := calls
    result := by
      rw [played,begunAfter walk (Nat.lt_succ_self _),state]
      dsimp only
      rw [Engine.endedState]
    session := by rw [played,begunAfter walk (Nat.lt_succ_self _)]
    renders := by
      rw [calls,List.countP_append,List.countP_append,shown,List.length_take_of_le walk.within]
      simp [Call.isRender,Nat.add_comm]
    pauses := by
      rw [calls,List.map_append,List.map_append,List.sum_append,List.sum_append,waited]
      simp [Call.pause] }

theorem playTrace (s : Session) :
    match s.engine.refusal? s.program s.track s.robot s.configMode with
    | some refusal => s.Declines refusal
    | none => ∃ stop, s.Plays stop := by
  split
  · rename_i refusal refused
    exact declinesRefused refused
  · rename_i granted
    obtain ⟨stop,walk⟩ := Robot.stopsSomewhere s.track s.robot s.program.expand
    exact ⟨stop,playsGranted granted walk⟩

end Session
end GridRobot
