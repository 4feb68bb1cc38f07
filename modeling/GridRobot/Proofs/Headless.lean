import GridRobot.Proofs.Exporting
import GridRobot.Proofs.Playback

/-! Headless runs. A run on the command line is told line by line, so what it prints is known from
the program text and the track alone: the robot at the start, the robot after each instruction that
could be followed, and how it ended. The exit code says the same to whoever does not read. -/
namespace GridRobot.CommandLine

def Event.line? : Event → Option String
  | .print line => some line
  | .complain _ | .pause _ | .record .. => none

theorem printedLines (t : Transcript) : t.printed = t.events.filterMap Event.line? :=
  congrArg (t.events.filterMap ·) (funext fun e => by cases e <;> rfl)

theorem tellAllPerform (events : List Event) (next : Script) (draw : Draw) (d : Directory) :
    (Script.tellAll events next).perform draw d =
      { next.perform draw d with events := events ++ (next.perform draw d).events } := by
  induction events with
  | nil => rfl
  | cons e rest ih =>
    have told : (Script.tellAll (e :: rest) next).perform draw d =
        { (Script.tellAll rest next).perform draw d with
          events := e :: ((Script.tellAll rest next).perform draw d).events } := rfl
    rw [told,ih]
    rfl

theorem linesSilent {events : List Event} (silent : ∀ e ∈ events, e.isPrint = false) :
    events.filterMap Event.line? = [] := by
  refine List.filterMap_eq_nil_iff.mpr fun e inside => ?_
  have unprinted := silent e inside
  cases e with
  | print => contradiction
  | complain | pause | record => rfl

def Shows (line : String) (n : Nat) (r : Robot) : Prop :=
  ∃ gap, line = String.ofList (.replicate gap ' ') ++ toString n ++ "  " ++
    String.singleton r.heading.arrow ++ " (" ++ toString r.position.row.toNat ++ ", " ++
    toString r.position.col.toNat ++ ") facing " ++ toString r.heading.degrees ++ "°"

theorem robotLineShows (n : Nat) (r : Robot) : Shows (robotLine n r) n r :=
  ⟨3 - (toString n).length,by
    simp only [robotLine,numberColumn,Position.text,Heading.text,String.append_assoc]
    rfl⟩

end GridRobot.CommandLine

namespace GridRobot.Session

theorem stepCalls {s : Session} {stop n : Nat}
    (walk : s.robot.StopsAt s.track s.program.expand stop) (before : n < stop) :
    ∃ delay, (s.begun.afterTicks n).next.calls =
      [.render s.track (s.robot.followAll (s.program.expand.take (n + 1))),.sleep delay] := by
  obtain ⟨i,token⟩ : ∃ i, s.program.expand[n]? = some i :=
    ⟨_,List.getElem?_eq_getElem (Nat.lt_of_lt_of_le before walk.within)⟩
  have upTo := courseShows walk (Nat.le_of_lt before)
  have through := courseShows walk (Nat.succ_le_of_lt before)
  rw [List.range_succ,List.flatMap_append,upTo,List.flatMap_singleton,List.take_add_one,token,
    Option.toList_some,showingAppend] at through
  rw [Robot.followAllSucc s.robot token]
  exact ⟨s.engine.timing.delayFor i,List.append_cancel_left through⟩

def Moment.commits (m : Moment) : Bool :=
  match m.outcome with
  | .stepped .. => true
  | .completed _ | .failed _ | .idle => false

/- Only a committed instruction is both drawn and waited for. -/
theorem commitsCalls (m : Moment) : m.commits = decide (m.calls.length = 2) := by
  obtain ⟨outcome,session⟩ := m
  cases outcome <;> rfl

theorem playCommits {s : Session} {stop : Nat}
    (granted : s.engine.refusal? s.program s.track s.robot s.configMode = none)
    (walk : s.robot.StopsAt s.track s.program.expand stop) :
    s.play.course.countP Moment.commits = stop := by
  have steps : ((List.range stop).map fun n => (s.begun.afterTicks n).next).countP
      Moment.commits = stop := by
    rw [List.countP_eq_length.mpr,List.length_map,List.length_range]
    intro m inside
    obtain ⟨n,before,rfl⟩ := List.mem_map.mp inside
    obtain ⟨delay,calls⟩ := stepCalls walk (List.mem_range.mp before)
    rw [commitsCalls,calls]
    rfl
  have closes : (s.begun.afterTicks stop).next.commits = false := by
    rw [commitsCalls,courseCloses walk]
    rfl
  rw [playGranted granted walk]
  dsimp only
  rw [List.range_succ,List.map_append,List.countP_append,steps,List.map_singleton,
    List.countP_singleton,closes]
  rfl

theorem dispatchAllAppends {s : Session} (resting : s.isRunning = false)
    (instructions : List Instruction) :
    (s.dispatchAll (instructions.map .append)).2 =
      { s with program := ⟨s.program.instructions ++ instructions⟩ } := by
  induction instructions generalizing s with
  | nil => rw [List.append_nil]; rfl
  | cons i rest ih =>
    have appended : s.dispatch (.append i) = ([.renderProgram],{ s with program := s.program.append i }) :=
      if_neg (by simp [resting])
    have later := ih (s := { s with program := s.program.append i }) resting
    rw [List.map_cons,dispatchAll,appended]
    dsimp only
    rw [later,Program.append,List.append_assoc]
    rfl

end GridRobot.Session

namespace GridRobot.CommandLine

theorem zipIdxRange {α : Type} (f : Nat → α) (n : Nat) :
    ((List.range n).map f).zipIdx = (List.range n).map fun i => (f i,i) :=
  List.ext_getElem (by simp) (by simp)

theorem outcomeSilent (l : Logger) (m : Session.Moment) :
    ((Log.Record.ofOutcome? m.session.robot m.outcome).elim [] l.events).filterMap
      Event.line? = [] := by
  cases Log.Record.ofOutcome? m.session.robot m.outcome with
  | none => rfl
  | some record => exact linesSilent (l.eventsSilent record)

def linesOf (s : Session) (stop : Nat) : List String :=
  (List.range (stop + 1)).map (fun n => robotLine n (s.robot.followAll (s.program.expand.take n))) ++
    [noticeLine (s.closing stop)]

theorem runLines {s : Session} {stop : Nat} (l : Logger)
    (granted : s.engine.refusal? s.program s.track s.robot s.configMode = none)
    (walk : s.robot.StopsAt s.track s.program.expand stop) :
    (runEvents l s).filterMap Event.line? = linesOf s stop := by
  have closes : (narrate (stop + 1) (s.begun.afterTicks stop).next.calls).filterMap Event.line? =
      [noticeLine (s.closing stop)] := by
    rw [Session.courseCloses walk]
    rfl
  have steps : ((List.range stop).flatMap fun n =>
      (narrate (n + 1) (s.begun.afterTicks n).next.calls).filterMap Event.line?) =
        (List.range stop).map fun n =>
          robotLine (n + 1) (s.robot.followAll (s.program.expand.take (n + 1))) := by
    rw [List.map_eq_flatMap]
    refine List.flatMap_congr fun n inside => ?_
    obtain ⟨delay,calls⟩ := Session.stepCalls walk (List.mem_range.mp inside)
    rw [calls]
    rfl
  unfold runEvents
  rw [Session.playGranted granted walk]
  dsimp only
  rw [zipIdxRange,List.flatMap_map,List.filterMap_append,List.filterMap_append,
    linesSilent (l.eventsSilent _),List.filterMap_flatMap]
  -- what is logged at a step is not printed
  simp only [List.filterMap_append,outcomeSilent,List.nil_append]
  rw [List.range_succ,List.flatMap_append,List.flatMap_singleton,closes,steps,linesOf,
    List.range_succ_eq_map,List.map_cons,List.map_map]
  rfl

theorem refusedLines {s : Session} {refusal : RunRefusal} (l : Logger)
    (refused : s.engine.refusal? s.program s.track s.robot s.configMode = some refusal) :
    (runEvents l s).filterMap Event.line? =
      (if refusal.isSilent then [] else [noticeLine .notOnTrack]) ∧ runState s = .idle := by
  unfold runEvents runState Session.play
  rw [Session.requestRefused refused]
  cases refusal <;> exact ⟨rfl,rfl⟩

def typed (p : Program) (track : Track) (timing : Timing) : Session :=
  { Session.new track timing with program := p }

theorem typedDispatched (p : Program) (track : Track) (timing : Timing) :
    ((Session.new track timing).dispatchAll (p.instructions.map .append)).2 = typed p track timing :=
  Session.dispatchAllAppends rfl p.instructions

theorem headlessRead {text : String} {p : Program} (read : Program.parse text = .ok p) (l : Logger)
    (track : Track) (timing : Timing) (draw : Draw) (d : Directory) :
    ((headless l text track timing).perform draw d).printed =
      (runEvents l (typed p track timing)).filterMap Event.line? ∧
    ((headless l text track timing).perform draw d).code = runCode (typed p track timing) := by
  unfold headless
  rw [read]
  dsimp only
  rw [typedDispatched]
  have agrees := logAgrees l (.runRequested (typed p track timing).program
    (typed p track timing).robot.position) (.tellAll (runEvents l (typed p track timing))
      (.finish (runCode (typed p track timing)))) draw d
  refine ⟨agrees.printed.trans ?_,agrees.code.trans ?_⟩
  · rw [printedLines,tellAllPerform]
    exact congrArg (List.filterMap Event.line?) (List.append_nil _)
  · rw [tellAllPerform]
    rfl

structure Lines (track : Track) (sequence : List Instruction) (stop : Nat) (printed : List String) :
    Prop where
  count : printed.length = stop + 2
  numbered : ∀ n, n ≤ stop → ∃ line, printed[n]? = some line ∧
    Shows line n ((Robot.parkedOn track.start).followAll (sequence.take n))
  verdict : printed[stop + 1]? = some
    (if stop = sequence.length then "✓ Mission accomplished!"
      else "✗ Try again: the robot left the track.")

inductive Tells (text : String) (track : Track) (timing : Timing) : List String → UInt8 → Prop where
  | unreadable {e : UnknownWord} (read : Program.parse text = .error e) :
      Tells text track timing [] 1
  | empty {p : Program} (read : Program.parse text = .ok p) (empty : p.instructions = [])
      (idle : runState (typed p track timing) = .idle) : Tells text track timing [] 1
  | offTrack {p : Program} (read : Program.parse text = .ok p) (filled : p.instructions ≠ [])
      (off : track.traversable track.start = false)
      (idle : runState (typed p track timing) = .idle) :
      Tells text track timing ["✗ Try again: the robot is not on the track."] 1
  | runs {p : Program} {stop : Nat} {printed : List String} (read : Program.parse text = .ok p)
      (filled : p.instructions ≠ []) (on : track.traversable track.start = true)
      (walk : (Robot.parkedOn track.start).StopsAt track p.expand stop)
      (lines : Lines track p.expand stop printed)
      (committed : (typed p track timing).play.course.countP Session.Moment.commits = stop)
      (state : runState (typed p track timing) =
        if stop = p.expand.length then .completed else .failed) :
      Tells text track timing printed (if stop = p.expand.length then 0 else 1)

theorem linesTyped (p : Program) (track : Track) (timing : Timing) (stop : Nat) :
    Lines track p.expand stop (linesOf (typed p track timing) stop) where
  count := by simp [linesOf]
  numbered n before := by
    have inside : n < stop + 1 := Nat.lt_succ_of_le before
    refine ⟨_,?_,robotLineShows n _⟩
    rw [linesOf,List.getElem?_append_left (by simpa using inside),List.getElem?_map,
      List.getElem?_range inside]
    rfl
  verdict := by
    rw [linesOf,List.getElem?_append_right (by simp)]
    simp only [List.length_map,List.length_range,Nat.sub_self,List.getElem?_cons_zero]
    exact congrArg some (apply_ite noticeLine _ _ _)

section Typed
variable {text : String} {p : Program} (read : Program.parse text = .ok p) (l : Logger)
  (track : Track) (timing : Timing)
include read

theorem typedRefused {refusal : RunRefusal}
    (refused : (typed p track timing).engine.refusal? p track (.parkedOn track.start) false =
      some refusal) :
    Tells text track timing ((runEvents l (typed p track timing)).filterMap Event.line?)
      (runCode (typed p track timing)) := by
  obtain ⟨lines,idle⟩ := refusedLines l refused
  rw [lines,runCode,idle]
  unfold Engine.refusal? at refused
  split at refused
  · contradiction
  · split at refused
    · rename_i empty
      cases refused
      exact .empty read (List.isEmpty_iff.mp empty) idle
    · rename_i filled
      cases on : track.traversable track.start with
      | true => simp [Robot.parkedOn,on] at refused
      | false =>
        simp only [Robot.parkedOn,on,Bool.false_eq_true,if_false,Option.some.injEq] at refused
        subst refused
        exact .offTrack read (fun empty => filled (List.isEmpty_iff.mpr empty)) on idle

theorem typedGranted
    (granted : (typed p track timing).engine.refusal? p track (.parkedOn track.start) false = none) :
    Tells text track timing ((runEvents l (typed p track timing)).filterMap Event.line?)
      (runCode (typed p track timing)) := by
  obtain ⟨stop,walk⟩ := Robot.stopsSomewhere track (.parkedOn track.start) p.expand
  obtain ⟨_,filled,_,on⟩ := Engine.refusalNone.mp granted
  have state : runState (typed p track timing) =
      if stop = p.expand.length then .completed else .failed := by
    unfold runState
    rw [(Session.playsGranted (s := typed p track timing) granted walk).result]
    rfl
  have code : runCode (typed p track timing) = if stop = p.expand.length then 0 else 1 := by
    unfold runCode
    rw [state]
    split <;> rfl
  rw [runLines (s := typed p track timing) l granted walk,code]
  exact .runs read (fun empty => absurd filled (by simp [Program.isEmpty,empty])) on walk
    (linesTyped p track timing stop) (Session.playCommits (s := typed p track timing) granted walk)
    state

end Typed

theorem headlessTells (l : Logger) (text : String) (track : Track) (timing : Timing) (draw : Draw)
    (d : Directory) :
    Tells text track timing ((headless l text track timing).perform draw d).printed
      ((headless l text track timing).perform draw d).code := by
  cases read : Program.parse text with
  | error e =>
    have failed : headless l text track timing = (Report.mk e.message none).script := by
      rw [headless,read]
    rw [failed]
    exact .unreadable read
  | ok p =>
    obtain ⟨printed,code⟩ := headlessRead read l track timing draw d
    rw [printed,code]
    cases guard : (typed p track timing).engine.refusal? p track (.parkedOn track.start) false with
    | some refusal => exact typedRefused read l track timing guard
    | none => exact typedGranted read l track timing guard

theorem tellsCode {text : String} {track : Track} {timing : Timing} {printed : List String}
    {code : UInt8} (tells : Tells text track timing printed code) :
    code = 0 ↔ ∃ p, Program.parse text = .ok p ∧ runState (typed p track timing) = .completed := by
  cases tells with
  | unreadable read => simp [read]
  | empty read _ idle => simp [read,idle]
  | offTrack read _ _ idle => simp [read,idle]
  | runs read _ _ _ _ _ state =>
    simp only [read,Except.ok.injEq,exists_eq_left',state]
    split <;> simp

def givenTrack? (d : Directory) (draw : Draw) (file : Option String) (preset : Option UInt64) :
    Option Track :=
  match file,preset with
  | some path,_ => (TrackFile.load d path).toOption.map (·.cells)
  | none,some index => Track.preset? index
  | none,none => some (Track.presets.get draw)

def Invocation.prepared? (i : Invocation) (file : Option String) (preset turn step : Option UInt64)
    (draw : Draw) (d : Directory) : Option (Directory × Track × Timing) := do
  let d ← i.opened? d
  let settings ← (Settings.loadOrStandard d i.config).toOption
  let track ← givenTrack? d draw file preset
  some (d,track,⟨(turn.getD settings.turnDelay).toNat,(step.getD settings.stepDelay).toNat⟩)

theorem withTrackGiven (d : Directory) (draw : Draw) (file : Option String)
    (preset : Option UInt64) (next : Track → Script) :
    match givenTrack? d draw file preset with
    | some track => (withTrack file preset next).perform draw d = (next track).perform draw d
    | none => ∃ report : Report,
      (withTrack file preset next).perform draw d = report.script.perform draw d := by
  cases file with
  | some path =>
    simp only [givenTrack?,TrackFile.load,DocumentFormat.load,withTrack,Script.perform]
    cases TrackFile.format.ofRead path (d.read path) with
    | ok f => rfl
    | error e => exact ⟨_,rfl⟩
  | none =>
    cases preset with
    | none => rfl
    | some index =>
      simp only [givenTrack?,withTrack]
      cases Track.preset? index with
      | some track => rfl
      | none => exact ⟨_,rfl⟩

theorem runPerformed (filter : Log.Filter) (terminal : Terminal) {i : Invocation} {text : String}
    {file : Option String} {preset turn step : Option UInt64} (runs : i.task = some (.run text file preset turn step))
    (draw : Draw) (d : Directory) :
    match i.prepared? file preset turn step draw d with
    | some (d',track,timing) => ((i.script filter terminal).perform draw d).Agrees
        ((headless ⟨filter,i.sink⟩ text track timing).perform draw d')
    | none => ∃ (report : Report) (d' : Directory),
        ((i.script filter terminal).perform draw d).Agrees (report.script.perform draw d') := by
  have script := i.scriptOpened filter terminal draw d
  unfold Invocation.prepared?
  simp only [Option.bind_eq_bind]
  cases opened : i.opened? d with
  | none =>
    rw [opened] at script
    obtain ⟨report,same⟩ := script
    exact ⟨report,d,.ofEq same⟩
  | some d' =>
    rw [opened] at script
    dsimp only at script
    rw [script,Option.bind_some]
    cases loaded : Settings.loadOrStandard d' i.config with
    | error e => exact ⟨_,d',startedUnsettled loaded terminal _ draw⟩
    | ok settings =>
      have agrees := startedAgrees loaded terminal ⟨filter,i.sink⟩ draw
      rw [runs] at agrees
      have tracked := withTrackGiven d' draw file preset fun track =>
        headless ⟨filter,i.sink⟩ text track
          ⟨(turn.getD settings.turnDelay).toNat,(step.getD settings.stepDelay).toNat⟩
      rw [Except.toOption,Option.bind_some]
      cases given : givenTrack? d' draw file preset with
      | none =>
        rw [given] at tracked
        obtain ⟨report,same⟩ := tracked
        exact ⟨report,d',agrees.trans (.ofEq same)⟩
      | some track =>
        rw [given] at tracked
        exact agrees.trans (.ofEq tracked)

def Ends (text : String) (prepared : Option (Directory × Track × Timing)) (t : Transcript) : Prop :=
  match prepared with
  | none => t.printed = [] ∧ t.code = 1
  | some (_,track,timing) => Tells text track timing t.printed t.code ∧
    (t.code = 0 ↔
      ∃ p, Program.parse text = .ok p ∧ runState (typed p track timing) = .completed)

theorem runEnds (filter : Log.Filter) (terminal : Terminal) {i : Invocation} {text : String}
    {file : Option String} {preset turn step : Option UInt64} (runs : i.task = some (.run text file preset turn step))
    (draw : Draw) (d : Directory) :
    Ends text (i.prepared? file preset turn step draw d)
      ((i.script filter terminal).perform draw d) := by
  have performed := runPerformed filter terminal runs draw d
  cases prepared : i.prepared? file preset turn step draw d with
  | none =>
    rw [prepared] at performed
    obtain ⟨report,d',agrees⟩ := performed
    exact ⟨agrees.printed,agrees.code⟩
  | some found =>
    obtain ⟨d',track,timing⟩ := found
    rw [prepared] at performed
    have tells := headlessTells ⟨filter,i.sink⟩ text track timing draw d'
    rw [← performed.printed,← performed.code] at tells
    exact ⟨tells,tellsCode tells⟩

theorem headlessToldInLines (text : String) :
    (∀ l track timing draw d,
      let t := (headless l text track timing).perform draw d
      Tells text track timing t.printed t.code ∧
        ∀ e, Program.parse text = .error e → t.complaints = ["Error: " ++ e.message]) ∧
    ∀ filter args terminal i file preset turn step draw d, Invocation.read args = .ok i →
      i.task = some (.run text file preset turn step) →
      Ends text (i.prepared? file preset turn step draw d)
        ((script filter args terminal).perform draw d) := by
  refine ⟨fun l track timing draw d => ⟨headlessTells l text track timing draw d,?_⟩,?_⟩
  · intro e read
    have failed : headless l text track timing = (Report.mk e.message none).script := by
      rw [headless,read]
    rw [failed]
    exact congrArg ([·]) (String.append_empty (s := "Error: " ++ e.message))
  · intro filter args terminal i file preset turn step draw d read runs
    have invoked : script filter args terminal = i.script (.ofSetting filter) terminal := by
      rw [script,read]
    rw [invoked]
    exact runEnds (.ofSetting filter) terminal runs draw d

def cornering : List String := ["run","--program","[ F F ] R F","--preset","0"]

def corneringInvocation : Invocation :=
  ⟨none,none,some (.run "[ F F ] R F" none (some 0) none none)⟩

/- The run goes round the corner and needs every line for it. -/
theorem corneringToldInLines :
    Invocation.read cornering = .ok corneringInvocation ∧
    Tells "[ F F ] R F" .corner .standard ((script none cornering).perform 0 .empty).printed 0 ∧
    ((script none cornering).perform 0 .empty).printed.length = 8 := by
  have read : Invocation.read cornering = .ok corneringInvocation := by rfl
  have done : ((script none cornering).perform 0 .empty).code = 0 := by decide +kernel
  have ends := (headlessToldInLines "[ F F ] R F").2 none cornering .absent corneringInvocation
    none (some 0) none none 0 .empty read rfl
  have tells : Tells "[ F F ] R F" .corner .standard
      ((script none cornering).perform 0 .empty).printed
      ((script none cornering).perform 0 .empty).code := ends.1
  rw [done] at tells
  exact ⟨read,tells,by decide +kernel⟩

end GridRobot.CommandLine
