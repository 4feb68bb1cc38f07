import GridRobot.Proofs.Expansion
import GridRobot.Screen
import Mathlib.Data.List.Induction

/-! Programs cut and lengthened. After a part whose last marker opens no block the pass starts
afresh, and so it does at every start of a block, where the block before is dropped at once. There
a token list may be cut and expanded part by part. One token more at the end of a program changes
its steps by one, or by as many as the open block holds. -/
namespace GridRobot

namespace Expansion

theorem closedOutside {pre : List Instruction} (outside : leftMarker pre ≠ some .loopStart) :
    (pre.foldl State.feed .initial).body = none := by
  have isOpen := openAfter .initial pre
  cases marker : leftMarker pre with
  | none => simpa [marker,State.initial] using isOpen
  | some m =>
    have other : (m == .loopStart) = false := by simpa [marker] using outside
    simpa [marker,other] using isOpen

theorem outcomeClosed {s : State} (closed : s.body = none) (tokens : List Instruction) :
    s.outcome tokens = s.finish ++ expand tokens := by
  simp [State.outcome,State.finish,closed,expandUnroll]

theorem outcomeStart (s : State) (tokens : List Instruction) :
    s.outcome (.loopStart :: tokens) = s.emitted ++ expand (.loopStart :: tokens) := by
  rw [expandUnroll]
  obtain ⟨emitted,_ | body⟩ := s
  · rfl
  · exact congrArg (emitted ++ ·) (unrollOpenStart body tokens)

theorem expandAppend {pre : List Instruction} (outside : leftMarker pre ≠ some .loopStart)
    (post : List Instruction) : expand (pre ++ post) = expand pre ++ expand post := by
  rw [expandSplit,outcomeClosed (closedOutside outside)]
  rfl

theorem expandAfterEnd (pre post : List Instruction) :
    expand (pre ++ [.loopEnd] ++ post) = expand (pre ++ [.loopEnd]) ++ expand post :=
  expandAppend (by simp [leftMarker,Instruction.isMotion]) post

theorem expandBeforeStart (pre post : List Instruction) :
    expand (pre ++ [.loopStart] ++ post) =
      expand (pre ++ [.loopStart]) ++ expand ([.loopStart] ++ post) := by
  have alone : expand [.loopStart] = [] := rfl
  rw [List.append_assoc,expandSplit,expandSplit pre [.loopStart],List.singleton_append,
    outcomeStart,outcomeStart,alone,List.append_nil]

def EndsOpen (tokens body : List Instruction) : Prop :=
  (∀ x ∈ body, x.isMotion) ∧ ∃ before, tokens = before ++ .loopStart :: body

theorem feedBody (s : State) (i : Instruction) :
    (s.feed i).body =
      if i.isMotion then s.body.map (· ++ [i]) else if i = .loopStart then some [] else none := by
  obtain ⟨emitted,_ | body⟩ := s <;> cases i <;> rfl

theorem motionsBody {motions : List Instruction} (all : ∀ x ∈ motions, x.isMotion) (s : State) :
    (motions.foldl State.feed s).body = s.body.map (· ++ motions) := by
  induction motions generalizing s with
  | nil => simp
  | cons m rest ih =>
    rw [List.foldl_cons,ih fun x inside => all x (List.mem_cons_of_mem m inside),feedBody,
      if_pos (all m List.mem_cons_self)]
    simp [Function.comp_def]

theorem openBody {tokens body : List Instruction} :
    (tokens.foldl State.feed .initial).body = some body ↔ EndsOpen tokens body := by
  constructor
  · intro isOpen
    induction tokens using List.reverseRecOn generalizing body with
    | nil => contradiction
    | append_singleton before x ih =>
      rw [List.foldl_append,List.foldl_cons,List.foldl_nil,feedBody] at isOpen
      -- the last token has been added to the body, or it is the one that has opened the block
      rcases motionOrMarker x with motion | rfl | rfl
      · rw [if_pos motion] at isOpen
        obtain ⟨held,earlier,rfl⟩ := Option.map_eq_some_iff.mp isOpen
        obtain ⟨all,start,rfl⟩ := ih earlier
        exact ⟨List.forall_mem_append.mpr ⟨all,by simpa using motion⟩,start,by simp⟩
      · cases isOpen
        exact ⟨by simp,before,rfl⟩
      · contradiction
  · rintro ⟨all,before,rfl⟩
    rw [List.foldl_append,List.foldl_cons,motionsBody all]
    rfl

theorem expandConcat (tokens : List Instruction) (x : Instruction) :
    expand (tokens ++ [x]) = ((tokens.foldl State.feed .initial).feed x).finish := by
  rw [expand,List.foldl_append]
  rfl

theorem finishMotion (s : State) {m : Instruction} (motion : m.isMotion) :
    (s.feed m).finish = s.finish ++ [m] := by
  obtain ⟨emitted,_ | body⟩ := s
  · simp [(feedMotion motion emitted []).1,State.finish]
  · simp [(feedMotion motion emitted body).2,State.finish]

theorem finishOpen {s : State} {body : List Instruction} (held : s.body = some body) :
    (s.feed .loopEnd).finish = s.finish ++ body ∧
      s.finish = (s.feed .loopStart).finish ++ body := by
  obtain ⟨emitted,_⟩ := s
  cases held
  simp [State.feed,State.finish]

theorem finishClosed {s : State} (closed : s.body = none) {m : Instruction}
    (marker : m.isMotion = false) : (s.feed m).finish = s.finish := by
  obtain ⟨emitted,_⟩ := s
  cases closed
  cases m <;> first | contradiction | rfl

end Expansion

namespace Program
open Expansion (EndsOpen)

def ShowsSteps (p : Program) (steps : Nat) : Prop :=
  p.expand.length = steps ∧ Screen.programTitle p = " Program (" ++ toString steps ++ " steps) "

theorem showsSteps {p : Program} {steps : Nat} (counted : p.expand.length = steps) :
    p.ShowsSteps steps := ⟨counted,by rw [Screen.programTitle,counted]⟩

structure Lengthens (p : Program) : Prop where
  motion : ∀ m, m.isMotion → (p.append m).ShowsSteps (p.expand.length + 1)
  closes : ∀ body, EndsOpen p.instructions body →
    (p.append .loopEnd).ShowsSteps (p.expand.length + body.length)
  reopens : ∀ body, EndsOpen p.instructions body → body.length ≤ p.expand.length ∧
    (p.append .loopStart).ShowsSteps (p.expand.length - body.length)
  outside : (∀ body, ¬ EndsOpen p.instructions body) → ∀ m, m.isMotion = false →
    (p.append m).ShowsSteps p.expand.length

theorem lengthens (p : Program) : p.Lengthens where
  motion m motion := by
    refine showsSteps ?_
    rw [expand,append,Expansion.expandConcat,Expansion.finishMotion _ motion,List.length_append]
    rfl
  closes body isOpen := by
    have finished := (Expansion.finishOpen (Expansion.openBody.mpr isOpen)).1
    refine showsSteps ?_
    rw [expand,append,Expansion.expandConcat,finished,List.length_append]
    rfl
  reopens body isOpen := by
    have finished := (Expansion.finishOpen (Expansion.openBody.mpr isOpen)).2
    have counted := congrArg List.length finished
    rw [← Expansion.expandConcat,List.length_append] at counted
    have whole : p.expand.length = (p.append .loopStart).expand.length + body.length := counted
    exact ⟨by omega,showsSteps (by omega)⟩
  outside closed m marker := by
    have none : (p.instructions.foldl Expansion.State.feed .initial).body = none :=
      Option.eq_none_iff_forall_ne_some.mpr fun body held => closed body (Expansion.openBody.mp held)
    refine showsSteps ?_
    rw [expand,append,Expansion.expandConcat,Expansion.finishClosed none marker]
    rfl

/- The body of the block is doubled by its end and dropped by another start. -/
example :
    let p : Program := ⟨[.advance,.loopStart,.turnLeft,.advance]⟩
    p.expand.length = 3 ∧ (p.append .loopEnd).expand.length = 5 ∧
      (p.append .loopStart).expand.length = 1 := by decide

end Program

namespace Expansion

theorem expansionComposes :
    (∀ pre post, expand (pre ++ [.loopEnd] ++ post) = expand (pre ++ [.loopEnd]) ++ expand post) ∧
    (∀ pre post, expand (pre ++ [.loopStart] ++ post) =
      expand (pre ++ [.loopStart]) ++ expand ([.loopStart] ++ post)) ∧
    (∀ pre post, leftMarker pre ≠ some .loopStart →
      expand (pre ++ post) = expand pre ++ expand post) ∧
    ∀ p : Program, p.Lengthens :=
  ⟨expandAfterEnd,expandBeforeStart,fun _ post outside => expandAppend outside post,
    Program.lengthens⟩

end Expansion
end GridRobot
