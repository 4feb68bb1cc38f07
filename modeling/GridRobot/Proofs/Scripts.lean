import GridRobot.CommandLine

/-! Scripts performed. What a script records on its way has no part in how it ends, so an
invocation ends as its task does, once its log has been opened and its settings have been
loaded; and it ends well only if both can be done. -/
namespace GridRobot.CommandLine

/- How two scripts end, and what they print. Records and complaints are left out. -/
structure Transcript.Agrees (t u : Transcript) : Prop where
  code : t.code = u.code
  directory : t.directory = u.directory
  printed : t.printed = u.printed

theorem Transcript.Agrees.ofEq {t u : Transcript} (same : t = u) : t.Agrees u := by
  rw [same]
  exact ⟨rfl,rfl,rfl⟩

theorem Transcript.Agrees.trans {t u v : Transcript} (first : t.Agrees u) (second : u.Agrees v) :
    t.Agrees v :=
  ⟨first.code.trans second.code,first.directory.trans second.directory,
    first.printed.trans second.printed⟩

def Event.isPrint : Event → Bool
  | .print _ => true
  | .complain _ | .pause _ | .record .. => false

theorem tellAllAgrees {events : List Event} (silent : ∀ e ∈ events, e.isPrint = false)
    (next : Script) (draw : Draw) (d : Directory) :
    ((Script.tellAll events next).perform draw d).Agrees (next.perform draw d) := by
  induction events with
  | nil => exact ⟨rfl,rfl,rfl⟩
  | cons e rest ih =>
    have told : ((Script.tellAll (e :: rest) next).perform draw d).Agrees
        ((Script.tellAll rest next).perform draw d) := by
      cases e with
      | print line => exact absurd (silent _ List.mem_cons_self) (by simp [Event.isPrint])
      | complain | pause | record => exact ⟨rfl,rfl,rfl⟩
    exact told.trans (ih fun later inside => silent later (List.mem_cons_of_mem e inside))

theorem Logger.eventsSilent (l : Logger) (r : Log.Record) :
    ∀ e ∈ l.events r, e.isPrint = false := by
  unfold events
  split
  · cases l.sink <;> simp [Event.isPrint]
  · simp

theorem logAgrees (l : Logger) (r : Log.Record) (next : Script) (draw : Draw) (d : Directory) :
    ((l.log r next).perform draw d).Agrees (next.perform draw d) :=
  tellAllAgrees (l.eventsSilent r) next draw d

theorem reportFails (r : Report) (draw : Draw) (d : Directory) :
    (r.script.perform draw d).code = 1 := rfl

theorem interactRefused {terminal : Terminal} (refused : ∀ visit, terminal ≠ .opened visit)
    (l : Logger) (settings : Settings) (draw : Draw) (d : Directory) :
    ((interact terminal l settings).perform draw d).Agrees ⟨[],1,d⟩ := by
  refine (logAgrees l _ _ draw d).trans ?_
  cases terminal with
  | withoutRawMode | withoutScreen | withoutDrawing => exact ⟨rfl,rfl,rfl⟩
  | opened visit => exact absurd rfl (refused visit)

theorem startedAgrees {i : Invocation} {d : Directory} {settings : Settings}
    (loaded : Settings.loadOrStandard d i.config = .ok settings) (terminal : Terminal) (l : Logger)
    (draw : Draw) :
    ((started terminal l i).perform draw d).Agrees
      ((carryOut terminal l settings (i.task.getD .interact)).perform draw d) := by
  refine (logAgrees l _ _ draw d).trans ?_
  have settled : ∀ next : Settings → Script,
      (withSettings i.config next).perform draw d = (next settings).perform draw d := by
    intro next
    cases config : i.config with
    | none =>
      rw [config] at loaded
      cases loaded
      rfl
    | some path =>
      rw [config] at loaded
      have read : Settings.format.ofRead path (d.read path) = .ok settings := loaded
      simp only [withSettings,Script.perform,read]
  rw [settled]
  exact logAgrees l _ _ draw d

theorem startedUnsettled {i : Invocation} {d : Directory} {e : DocumentError}
    (failed : Settings.loadOrStandard d i.config = .error e) (terminal : Terminal) (l : Logger)
    (draw : Draw) :
    ((started terminal l i).perform draw d).Agrees ((Report.ofDocument e).script.perform draw d) := by
  refine (logAgrees l _ _ draw d).trans ?_
  cases config : i.config with
  | none =>
    rw [config] at failed
    contradiction
  | some path =>
    rw [config] at failed
    have read : Settings.format.ofRead path (d.read path) = .error e := failed
    simp only [withSettings,Script.perform,read]
    exact ⟨rfl,rfl,rfl⟩

def Invocation.opened? (i : Invocation) (d : Directory) : Option Directory :=
  match i.logFile with
  | none => some d
  | some path => (d.write path "").toOption

theorem Invocation.scriptOpened (filter : Log.Filter) (terminal : Terminal) (i : Invocation)
    (draw : Draw) (d : Directory) :
    match i.opened? d with
    | some d' => (i.script filter terminal).perform draw d =
        (started terminal ⟨filter,i.sink⟩ i).perform draw d'
    | none => ∃ report : Report,
        (i.script filter terminal).perform draw d = report.script.perform draw d := by
  obtain ⟨config,logFile,task⟩ := i
  cases logFile with
  | none =>
    cases task with
    | none => rfl
    | some task => cases task <;> rfl
  | some path =>
    simp only [opened?,script,sink,Script.perform]
    cases d.write path "" with
    | ok d' => rfl
    | error fault => exact ⟨_,rfl⟩

theorem taskCarriedOut {filter : Log.Filter} {terminal : Terminal} {i : Invocation} {draw : Draw}
    {d : Directory}
    (success : ((i.script filter terminal).perform draw d).code = 0) :
    ∃ d' settings, ((i.script filter terminal).perform draw d).Agrees
      ((carryOut terminal ⟨filter,i.sink⟩ settings (i.task.getD .interact)).perform draw d') := by
  have script := i.scriptOpened filter terminal draw d
  cases opened : i.opened? d with
  | none =>
    rw [opened] at script
    obtain ⟨report,failed⟩ := script
    rw [failed] at success
    exact absurd success (by simp [reportFails])
  | some d' =>
    rw [opened] at script
    dsimp only at script
    rw [script] at success ⊢
    cases loaded : Settings.loadOrStandard d' i.config with
    | ok settings => exact ⟨d',settings,startedAgrees loaded terminal _ draw⟩
    | error e =>
      have failed := (startedUnsettled loaded terminal ⟨filter,i.sink⟩ draw).code
      exact absurd success (by simp [failed,reportFails])

end GridRobot.CommandLine
