import GridRobot.Proofs.Admission
import GridRobot.Proofs.ProgramCodec
import GridRobot.Proofs.Scripts

/-! Programs run in place of others. The expansion of a program is a program without blocks; it
expands to itself, it is what the command line prints, and nobody who has an engine can tell a run
of it from a run of the program. Only where nothing is left of a program do the two differ: it can
be run, for no step at all, but an empty program is refused. -/
namespace GridRobot

def Program.flat (p : Program) : Program := ⟨p.expand⟩

theorem Program.expandFlat (p : Program) : p.flat.expand = p.expand :=
  Expansion.expandFlat (Expansion.expandMotions p.instructions)

theorem Program.filledExpansion {p : Program} (filled : p.expand ≠ []) : p.instructions ≠ [] := by
  intro nothing
  rw [expand,nothing] at filled
  exact filled rfl

namespace Engine

def transcript (e : Engine) : List Request → List (Answer × Engine)
  | [] => []
  | request :: later => e.respond request :: transcript (e.respond request).2 later

structure Alike (e : Engine) (p q : Program) (scene : Scene) (configuring : Bool) : Prop where
  start : e.start p scene.track scene.robot configuring =
    e.start q scene.track scene.robot configuring
  later : ∀ requests, e.transcript (.start p scene configuring :: requests) =
    e.transcript (.start q scene configuring :: requests)

theorem requestFlat (e : Engine) {p : Program} (filled : p.expand ≠ []) (scene : Scene)
    (configuring : Bool) : e.request p scene.track scene.robot configuring =
      e.request p.flat scene.track scene.robot configuring := by
  have some : p.isEmpty = false := by simpa [Program.isEmpty] using Program.filledExpansion filled
  have some' : p.flat.isEmpty = false := by simpa [Program.isEmpty,Program.flat] using filled
  simp only [request,some,some',p.expandFlat]

theorem alikeFlat (e : Engine) {p : Program} (filled : p.expand ≠ []) (scene : Scene)
    (configuring : Bool) : e.Alike p p.flat scene configuring := by
  have same := e.requestFlat filled scene configuring
  have answers : e.respond (.start p scene configuring) =
      e.respond (.start p.flat scene configuring) := by
    rw [respond,respond,same]
  refine ⟨by rw [start,start,same],fun requests => ?_⟩
  rw [transcript,transcript,answers]

structure EndsAtOnce (e e' : Engine) (steps : Nat) : Prop where
  steps : steps = 0
  step : ∀ scene : Scene, e'.step scene.track scene.robot =
    (.completed 0,e.finish .completed,scene.robot)

theorem emptyExpansion {e e' : Engine} {p : Program} {scene : Scene} {configuring : Bool} {n : Nat}
    (nothing : p.expand = [])
    (accepted : e.start p scene.track scene.robot configuring = .ok (n,e')) :
    e.EndsAtOnce e' n ∧
      e.start p.flat scene.track scene.robot configuring = .error .emptyProgram := by
  obtain ⟨granted,length,begun⟩ := startAccepted accepted
  rw [nothing] at length begun
  have resting := (refusalNone.mp granted).1
  have none : p.flat.isEmpty = true := by rw [Program.isEmpty,Program.flat,nothing]; rfl
  refine ⟨⟨length,fun scene => ?_⟩,?_⟩
  · rw [begun]
    rfl
  · have refused : e.refusal? p.flat scene.track scene.robot configuring =
        some .emptyProgram := by
      simp [refusal?,resting,none]
    exact startRefused.mpr refused

/- Markers alone can be run where nothing at all cannot. -/
example :
    let p : Program := ⟨[.loopStart,.loopEnd]⟩
    (new .zero).start p .corner (.parkedOn .origin) false =
        .ok (0,(new .zero).hold ⟨[],0⟩) ∧
      (new .zero).start p.flat .corner (.parkedOn .origin) false = .error .emptyProgram := by
  decide +kernel

end Engine

namespace CommandLine

structure PrintsExpansion (p : Program) (t : Transcript) : Prop where
  code : t.code = 0
  printed : t.printed = [p.flat.text]
  reads : Program.parse t.output = .ok p.flat

theorem printedReads {p : Program} {t : Transcript} (printed : t.printed = [p.text]) :
    Program.parse t.output = .ok p := by
  have separates : Program.Separates "\n" := ⟨by simp,by simp [Text.White,Text.whiteSpace]⟩
  have nothing : Program.parse "" = .ok .empty := rfl
  have output : t.output = p.text ++ "\n" ++ "" := by
    rw [Transcript.output,printed]
    exact (String.append_empty (s := p.text ++ "\n")).symm
  rw [output,Program.parseSeparated separates,Program.parseText,nothing]
  simp only [Program.joined,Program.empty,List.append_nil]

theorem expandPerformed {text : String} {p : Program} (read : Program.parse text = .ok p)
    (draw : Draw) (d : Directory) :
    (expand text).perform draw d = ⟨[.print p.flat.text],0,d⟩ := by
  simp only [expand,read,Script.perform]
  rfl

theorem agreesPrints {text : String} {p : Program} (read : Program.parse text = .ok p)
    {t : Transcript} {draw : Draw} {d : Directory}
    (agrees : t.Agrees ((expand text).perform draw d)) : PrintsExpansion p t := by
  rw [expandPerformed read] at agrees
  exact ⟨agrees.code,agrees.printed,printedReads agrees.printed⟩

theorem parsedPlain {text : String} {p : Program} (read : Program.parse text = .ok p)
    (rest : List Char) : text.toList ≠ '-' :: rest := by
  intro dash
  have letter : ¬ Text.White '-' := by simp [Text.White,Text.whiteSpace]
  obtain ⟨w,ws,words⟩ := Text.wordsHead letter rest
  have spelled := Program.parseOk.mp read
  rw [dash,words] at spelled
  obtain ⟨i,_,head,_,_⟩ := List.forall₂_cons_right_iff.mp spelled
  have unknown : Instruction.ofWord? ('-' :: w) = none := rfl
  rw [Instruction.ofWordSpells.mpr head] at unknown
  contradiction

theorem plainTaken {text : String} (plain : ∀ rest, text.toList ≠ '-' :: rest) :
    Reading.start.take Verb.expand.level text = .ok ⟨[],some (.program,some text),true,false⟩ := by
  rw [Reading.take,if_neg (by decide)]
  split
  case h_4 => rfl
  all_goals
    rename_i dash
    exact absurd dash (plain _)

theorem plainRead {text : String} (plain : ∀ rest, text.toList ≠ '-' :: rest) :
    Invocation.read ["expand",text] = .ok ⟨none,none,some (.expand text)⟩ := by
  have verb : readVerb .expand [text] = .ok ⟨none,none,some (.expand text)⟩ := by
    rw [readVerb,List.foldlM_cons,plainTaken plain]
    rfl
  have root : readRoot .start ["expand",text] =
      (readVerb .expand [text]).map (Reading.start,·) := rfl
  rw [Invocation.read,root,verb]
  rfl

structure ExpandsInPrint (text : String) (p : Program) : Prop where
  plain : ∀ filter terminal draw d,
    PrintsExpansion p ((script filter ["expand",text] terminal).perform draw d)
  invoked : ∀ filter args terminal i draw d, Invocation.read args = .ok i →
    i.task = some (.expand text) →
    ((script filter args terminal).perform draw d).code = 0 →
      PrintsExpansion p ((script filter args terminal).perform draw d)

theorem expandsInPrint {text : String} {p : Program} (read : Program.parse text = .ok p) :
    ExpandsInPrint text p where
  plain filter terminal draw d := by
    have invoked : script filter ["expand",text] terminal =
        (Invocation.mk none none (some (.expand text))).script (.ofSetting filter) terminal := by
      rw [script,plainRead (parsedPlain read)]
    rw [invoked]
    exact agreesPrints read (startedAgrees rfl terminal ⟨.ofSetting filter,.errors⟩ draw)
  invoked filter args terminal i draw d given expands success := by
    have invoked : script filter args terminal = i.script (.ofSetting filter) terminal := by
      rw [script,given]
    rw [invoked] at success ⊢
    obtain ⟨d',settings,agrees⟩ := taskCarriedOut success
    rw [expands] at agrees
    exact agreesPrints read agrees

end CommandLine

theorem Program.expansionRunsAlike (p : Program) :
    Expansion.expand p.expand = p.expand ∧
    (∀ text, parse text = .ok p → CommandLine.ExpandsInPrint text p) ∧
    (p.expand ≠ [] → ∀ (e : Engine) (scene : Engine.Scene) (configuring : Bool),
      e.Alike p p.flat scene configuring) ∧
    (p.instructions ≠ [] → p.expand = [] →
      ∀ (e e' : Engine) (scene : Engine.Scene) (configuring : Bool) (n : Nat),
        e.start p scene.track scene.robot configuring = .ok (n,e') →
        e.EndsAtOnce e' n ∧
          e.start p.flat scene.track scene.robot configuring = .error .emptyProgram) :=
  ⟨p.expandFlat,fun _ read => CommandLine.expandsInPrint read,
    fun filled e scene configuring => e.alikeFlat filled scene configuring,
    fun _ nothing _ _ _ _ _ accepted => Engine.emptyExpansion nothing accepted⟩

end GridRobot
