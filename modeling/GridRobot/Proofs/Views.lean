import GridRobot.Proofs.Gate

/-! Views. Whoever looks at a session only through the calls that its effects turn into sees
the track, the robot and the program as they are, since every operation asks for just the
drawings that it has made necessary. What is said about runs is said once for each run, when it
ends. -/
namespace GridRobot

structure View where
  track : Track
  robot : Robot
  program : Program

namespace View

def of (s : Session) : View := ⟨s.track,s.robot,s.program⟩

def see (v : View) : Call → View
  | .render track robot => { v with track, robot }
  | .renderProgram program => { v with program }
  | .notify _ | .clearNotice | .sleep _ => v

def seeAll (v : View) (calls : List Call) : View := calls.foldl see v

theorem seeAllAppend (v : View) (before after : List Call) :
    v.seeAll (before ++ after) = (v.seeAll before).seeAll after := List.foldl_append

end View

def Effect.notice? : Effect → Option Notice
  | .notify n => some n
  | .render | .renderProgram | .clearNotice | .suspend _ => none

namespace Session

def Turn.effects (turn : Turn) : List Effect :=
  match turn.reply with
  | .effects effects => effects
  | .started (.ok effects) => effects
  | .started (.error _) | .played .. => []

/- The effects of a turn are carried out on the session right after it; a play has carried out its
own. -/
def Turn.calls (turn : Turn) : List Call :=
  match turn.reply with
  | .played _ calls => calls
  | .effects _ | .started _ => turn.after.apply turn.effects

theorem refusalSeen (s : Session) (refusal : RunRefusal) :
    (View.of s).seeAll (s.apply (refusalEffects refusal)) = View.of s := by
  cases refusal <;> rfl

theorem nextSeen (s : Session) : (View.of s).seeAll s.next.calls = View.of s.next.session := by
  have follows := nextFollows s
  rw [Moment.calls]
  generalize s.next.outcome = outcome, s.next.session = s' at follows ⊢
  cases follows <;> rfl

theorem courseSeen (s : Session) : (View.of s).seeAll (s.course.flatMap Moment.calls) =
    View.of ((s.course.getLast?.map Moment.session).getD s) := by
  fun_induction course s with
  | case1 s running ih =>
    rw [List.flatMap_cons,View.seeAllAppend,nextSeen,ih,lastCons]
  | case2 s stopped => rfl

theorem playSeen (s : Session) : (View.of s).seeAll s.play.calls = View.of s.play.session := by
  rw [play,requestGuarded]
  cases s.engine.refusal? s.program s.track s.robot s.configMode with
  | some refusal =>
    rw [Playback.calls,List.flatMap_nil,List.append_nil]
    exact refusalSeen s refusal
  | none =>
    rw [Playback.calls,View.seeAllAppend]
    exact courseSeen s.begun

theorem obeySeen (s : Session) (c : Command) :
    (View.of s).seeAll ((s.obey c).2.apply (s.obey c).1) = View.of (s.obey c).2 := by
  cases c with
  | append | clearProgram | toggleConfigMode => rfl
  | replaceTrack track notice => cases notice <;> rfl
  | run =>
    unfold obey
    cases s.engine.refusal? s.program s.track s.robot s.configMode with
    | some refusal => exact refusalSeen s refusal
    | none => rfl
  | toggleCell p =>
    rcases s.obeyCell p with turnedDown | ⟨_,track,_,edited⟩
    · rw [turnedDown]
      rfl
    · rw [edited]
      rfl

theorem operateSeen (s : Session) (o : Operation) :
    (View.of s).seeAll (Turn.calls ⟨s,o,s.reply o,s.operate o⟩) = View.of (s.operate o) := by
  cases o with
  | tick => exact s.nextSeen
  | play => exact s.playSeen
  | dispatch c =>
    rw [reply,operate,dispatchGate]
    cases running : s.isRunning with
    | true => rfl
    | false => exact s.obeySeen c
  | startRun =>
    rw [reply,operate,requestGuarded]
    cases s.engine.refusal? s.program s.track s.robot s.configMode <;> rfl

theorem turnsSeen (s : Session) (operations : List Operation) :
    (View.of s).seeAll ((s.turns operations).flatMap Turn.calls) =
      View.of (s.operateAll operations) := by
  induction operations generalizing s with
  | nil => rfl
  | cons o rest ih =>
    rw [turns,List.flatMap_cons,View.seeAllAppend,operateSeen,ih]
    rfl

/-! What a turn leaves unsaid, and what is said of runs. -/

def Turn.starts (turn : Turn) : Bool := !turn.before.isRunning && turn.after.isRunning

def Turn.ends (turn : Turn) : Bool := turn.before.isRunning && !turn.after.isRunning

def Turn.verdicts (turn : Turn) : List Notice :=
  if turn.isTick then turn.effects.filterMap Effect.notice? else []

inductive Turn.Unanswered (turn : Turn) : Prop where
  | noEffects (replied : turn.reply = .effects [])
  | refusedRun {refusal} (replied : turn.reply = .started (.error refusal))
  | refusedPlay {refusal calls} (replied : turn.reply = .played (.error refusal) calls)

structure Turn.Announces (turn : Turn) : Prop where
  ending : turn.ends = true → turn.operation = .tick ∧ ∃ n, turn.reply = .effects [.notify n] ∧
    (n = .accomplished ∨ n = .offTrack) ∧ (n.success = true ↔ turn.after.state = .completed)
  going : turn.ends = false → ∀ n, .notify n ∈ turn.effects →
    turn.operation = .dispatch .run ∧ n = .notOnTrack ∨
    ∃ track, turn.operation = .dispatch (.replaceTrack track (some n))

theorem obeySilent {s : Session} {c : Command} (silent : (s.obey c).1 = []) : (s.obey c).2 = s := by
  cases c with
  | append | clearProgram | toggleConfigMode | replaceTrack => contradiction
  | run =>
    unfold obey at silent ⊢
    cases guard : s.engine.refusal? s.program s.track s.robot s.configMode with
    | some refusal => rfl
    | none => simp [guard] at silent
  | toggleCell p =>
    rcases s.obeyCell p with turnedDown | ⟨_,track,_,edited⟩
    · rw [turnedDown]
    · rw [edited] at silent
      contradiction

theorem dispatchSilent {s : Session} {c : Command} (silent : (s.dispatch c).1 = []) :
    (s.dispatch c).2 = s := by
  rw [dispatchGate] at silent ⊢
  split
  · rfl
  · rename_i resting
    rw [if_neg resting] at silent
    exact obeySilent silent

theorem tickSilent {s : Session} (silent : s.tick.1 = []) : s.tick.2 = s := by
  have follows := nextFollows s
  unfold tick at silent ⊢
  dsimp only at silent ⊢
  generalize s.next.outcome = outcome, s.next.session = s' at follows silent ⊢
  cases follows with
  | commits | fails | completes => contradiction
  | idle => rfl

theorem requestSilent {s : Session} {refusal : RunRefusal}
    (refused : s.request.1 = .error refusal) : s.request.2 = s := by
  rw [requestGuarded] at refused ⊢
  cases guard : s.engine.refusal? s.program s.track s.robot s.configMode with
  | some _ => rfl
  | none =>
    rw [guard] at refused
    contradiction

theorem playSilent {s : Session} {refusal : RunRefusal} (refused : s.play.result = .error refusal) :
    s.play.session = s := by
  rw [play,requestGuarded] at refused ⊢
  cases guard : s.engine.refusal? s.program s.track s.robot s.configMode with
  | some _ => rfl
  | none =>
    rw [guard] at refused
    contradiction

theorem unansweredStays (s : Session) (o : Operation)
    (unanswered : Turn.Unanswered ⟨s,o,s.reply o,s.operate o⟩) : s.operate o = s := by
  cases unanswered with
  | noEffects replied =>
    cases o with
    | dispatch c => exact dispatchSilent (Reply.effects.inj replied)
    | tick => exact tickSilent (Reply.effects.inj replied)
    | startRun | play => contradiction
  | refusedRun replied =>
    cases o with
    | startRun => exact requestSilent (Reply.started.inj replied)
    | dispatch | tick | play => contradiction
  | refusedPlay replied =>
    cases o with
    | play => exact playSilent (Reply.played.inj replied).1
    | dispatch | tick | startRun => contradiction

theorem obeyNotifies {s : Session} {c : Command} {n : Notice} (said : .notify n ∈ (s.obey c).1) :
    c = .run ∧ n = .notOnTrack ∨ ∃ track, c = .replaceTrack track (some n) := by
  cases c with
  | append | clearProgram | toggleConfigMode => simp [obey] at said
  | run =>
    unfold obey at said
    cases guard : s.engine.refusal? s.program s.track s.robot s.configMode with
    | some refusal => cases refusal <;> simp_all [refusalEffects,RunRefusal.isSilent]
    | none => simp [guard] at said
  | toggleCell p => rcases s.obeyCell p with same | ⟨_,_,_,same⟩ <;> simp [same] at said
  | replaceTrack track notice =>
    have asked : notice = some n := by simpa [obey,eq_comm] using said
    exact .inr ⟨track,by rw [asked]⟩

theorem tickAnnounces (s : Session) : Turn.Announces ⟨s,.tick,s.reply .tick,s.operate .tick⟩ := by
  have follows := nextFollows s
  have operated : s.operate .tick = s.next.session := rfl
  have replied : s.reply .tick = .effects (effectsOf s.next.outcome) := rfl
  rw [operated,replied]
  generalize s.next.outcome = outcome, s.next.session = s' at follows ⊢
  cases follows with
  | @commits _ _ robot held =>
    have goesOn : { s with engine := s.engine.advance, robot }.isRunning = true :=
      runRunning (Engine.advanceHeld held)
    refine ⟨fun ended => ?_,fun _ n said => ?_⟩
    · simp [Turn.ends,goesOn] at ended
    · simp [Turn.effects,effectsOf] at said
  | fails held =>
    have ends : (s.isRunning && !false) = true := by rw [runRunning held]; rfl
    refine ⟨fun _ => ⟨rfl,.offTrack,rfl,.inr rfl,?_⟩,fun going => nomatch ends.symm.trans going⟩
    exact iff_of_false Bool.false_ne_true (nomatch ·)
  | completes held =>
    have ends : (s.isRunning && !false) = true := by rw [runRunning held]; rfl
    exact ⟨fun _ => ⟨rfl,.accomplished,rfl,.inl rfl,iff_of_true rfl rfl⟩,
      fun going => nomatch ends.symm.trans going⟩
  | idle resting =>
    refine ⟨fun ended => ?_,fun _ n said => ?_⟩
    · simp [Turn.ends,resting] at ended
    · simp [Turn.effects,effectsOf] at said

theorem otherAnnounces (s : Session) {o : Operation} (other : o ≠ .tick) :
    Turn.Announces ⟨s,o,s.reply o,s.operate o⟩ where
  ending ended := by
    obtain ⟨running,stopped⟩ : s.isRunning = true ∧ (s.operate o).isRunning = false := by
      simpa [Turn.ends] using ended
    rw [(turnedAway running other).2] at stopped
    exact absurd running (by simp [stopped])
  going _ n said := by
    cases o with
    | tick => contradiction
    | play => simp [Turn.effects,reply] at said
    | startRun =>
      unfold Turn.effects reply at said
      rw [requestGuarded] at said
      cases guard : s.engine.refusal? s.program s.track s.robot s.configMode <;> simp [guard] at said
    | dispatch c =>
      cases running : s.isRunning with
      | true => simp [Turn.effects,reply,dispatchRunning running] at said
      | false =>
        have asked : .notify n ∈ (s.obey c).1 := by
          simpa [Turn.effects,reply,dispatchResting running] using said
        rcases obeyNotifies asked with ⟨rfl,refused⟩ | ⟨track,rfl⟩
        · exact .inl ⟨rfl,refused⟩
        · exact .inr ⟨track,rfl⟩

theorem operateAnnounces (s : Session) (o : Operation) :
    Turn.Announces ⟨s,o,s.reply o,s.operate o⟩ := by
  by_cases isTick : o = .tick
  · subst isTick
    exact s.tickAnnounces
  · exact s.otherAnnounces isTick

theorem verdictsOnce {turn : Turn} (announces : turn.Announces) :
    turn.verdicts.length = if turn.ends then 1 else 0 := by
  cases ended : turn.ends with
  | true =>
    obtain ⟨isTick,n,replied,_⟩ := announces.ending ended
    simp [Turn.verdicts,Turn.isTick,isTick,Turn.effects,replied,Effect.notice?]
  | false =>
    have silent : turn.verdicts = [] := by
      unfold Turn.verdicts
      split
      · rename_i ticked
        have isTick : turn.operation = .tick := by simpa [Turn.isTick] using ticked
        refine List.filterMap_eq_nil_iff.mpr fun e inside => ?_
        cases e with
        | notify n => rcases announces.going ended n inside with ⟨run,_⟩ | ⟨track,replaced⟩ <;> simp_all
        | render | renderProgram | clearNotice | suspend => rfl
      · rfl
    simp [silent]

theorem verdictsCount (s : Session) (operations : List Operation) :
    ((s.turns operations).flatMap Turn.verdicts).length = (s.turns operations).countP Turn.ends := by
  induction operations generalizing s with
  | nil => rfl
  | cons o rest ih =>
    rw [turns,List.flatMap_cons,List.length_append,ih,verdictsOnce (s.operateAnnounces o),
      List.countP_cons,Nat.add_comm]

theorem runsBalance (s : Session) (operations : List Operation) :
    (s.turns operations).countP Turn.starts + s.isRunning.toNat =
      (s.turns operations).countP Turn.ends + (s.operateAll operations).isRunning.toNat := by
  induction operations generalizing s with
  | nil => rfl
  | cons o rest ih =>
    have later := ih (s.operate o)
    have balance (before after : Bool) : (if !before && after then 1 else 0) + before.toNat =
        (if before && !after then 1 else 0) + after.toNat := by
      cases before <;> cases after <;> rfl
    have turned : (if Turn.starts ⟨s,o,s.reply o,s.operate o⟩ then 1 else 0) + s.isRunning.toNat =
        (if Turn.ends ⟨s,o,s.reply o,s.operate o⟩ then 1 else 0) + (s.operate o).isRunning.toNat :=
      balance s.isRunning (s.operate o).isRunning
    rw [turns,List.countP_cons,List.countP_cons,operateAll,List.foldl_cons,← operateAll]
    omega

structure Shown (s : Session) (operations : List Operation) : Prop where
  view : ∀ n, (View.of s).seeAll (((s.turns operations).take n).flatMap Turn.calls) =
    View.of (s.operateAll (operations.take n))
  silent : ∀ turn ∈ s.turns operations, turn.Unanswered → turn.after = turn.before
  announced : ∀ turn ∈ s.turns operations, turn.Announces
  once : ((s.turns operations).flatMap Turn.verdicts).length = (s.turns operations).countP Turn.ends
  runs : (s.turns operations).countP Turn.starts + s.isRunning.toNat =
    (s.turns operations).countP Turn.ends + (s.operateAll operations).isRunning.toNat

theorem effectsShowSession (s : Session) (operations : List Operation) : s.Shown operations where
  view n := by rw [turnsTake,turnsSeen]
  silent turn inside unanswered := by
    obtain ⟨s',o,rfl⟩ := turnsRecorded inside
    exact s'.unansweredStays o unanswered
  announced turn inside := by
    obtain ⟨s',o,rfl⟩ := turnsRecorded inside
    exact s'.operateAnnounces o
  once := s.verdictsCount operations
  runs := s.runsBalance operations

end Session
end GridRobot
