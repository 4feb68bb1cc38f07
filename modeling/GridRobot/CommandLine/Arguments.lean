/-! Command line arguments. Arguments are read from left to right. An option waits for
its value and is settled only when the next one comes or the arguments end, so of two
mistakes the one that is settled first is reported; what is missing altogether is
found last. A verb ends the options that stand before it; those it shares with them
may stand on either side, and then the later value counts. -/
namespace GridRobot.CommandLine

inductive UsageProblem where
  | missingArgument
  | conflict
  | unknownArgument
  | missingValue
  | malformedValue
  | unneededValue
  | unknownVerb
  | helpAsked
  | versionAsked
  deriving DecidableEq, Repr

inductive Slot where
  | config | logFile | program | track | preset | turnDelay | stepDelay | name | out
  deriving DecidableEq, Repr

inductive ValueKind where
  | text
  | path
  | number
  deriving DecidableEq, Repr

namespace Slot

def all : List Slot := [config, logFile, program, track, preset, turnDelay, stepDelay, name, out]

def long : Slot → String
  | config => "config"
  | logFile => "log-file"
  | program => "program"
  | track => "track"
  | preset => "preset"
  | turnDelay => "turn-ms"
  | stepDelay => "step-ms"
  | name => "name"
  | out => "out"

def short? : Slot → Option Char
  | program => some 'p'
  | track => some 't'
  | _ => none

def kind : Slot → ValueKind
  | program | name => .text
  | config | logFile | track | out => .path
  | preset | turnDelay | stepDelay => .number

end Slot

inductive Value where
  | text (s : String)
  | number (n : UInt64)
  deriving DecidableEq, Repr

def readWord? (text : String) : Option UInt64 :=
  let digits := match text.toList with
    | '+' :: rest => rest
    | cs => cs
  let n := digits.foldl (fun n d => n * 10 + (d.toNat - '0'.toNat)) 0
  if digits.isEmpty || !digits.all Char.isDigit || UInt64.size ≤ n then none
  else some (UInt64.ofNat n)

def ValueKind.read (raw : String) : ValueKind → Except UsageProblem Value
  | text => .ok (.text raw)
  | path => if raw.isEmpty then .error .missingValue else .ok (.text raw)
  | number =>
    match readWord? raw with
    | some n => .ok (.number n)
    | none => .error .malformedValue

inductive Verb where
  | interact | run | expand | validate | exportPreset
  deriving DecidableEq, Repr

namespace Verb

def all : List Verb := [interact, run, expand, validate, exportPreset]

def word : Verb → String
  | interact => "tui"
  | run => "run"
  | expand => "expand"
  | validate => "validate"
  | exportPreset => "export"

def ofWord? (word : String) : Option Verb := all.find? (·.word == word)

end Verb

def helpWord : String := "help"

structure Level where
  options : List Slot
  positional : Option Slot
  isRoot : Bool
  deriving DecidableEq, Repr

def sharedOptions : List Slot := [.config, .logFile]

def rootLevel : Level := ⟨sharedOptions, none, true⟩

def Verb.level : Verb → Level
  | interact => ⟨sharedOptions, none, false⟩
  | run => ⟨[.program, .track, .preset, .turnDelay, .stepDelay] ++ sharedOptions, none, false⟩
  | expand => ⟨sharedOptions, some .program, false⟩
  | validate => ⟨sharedOptions, some .track, false⟩
  | exportPreset => ⟨[.preset, .name] ++ sharedOptions, some .out, false⟩

structure Reading where
  settled : List (Slot × Value)
  pending : Option (Slot × Option String)
  positionalTaken : Bool
  literal : Bool
  deriving DecidableEq, Repr

namespace Reading

def start : Reading := ⟨[], none, false, false⟩

def awaitsValue (r : Reading) : Bool :=
  match r.pending with
  | some (_, none) => true
  | _ => false

def give (r : Reading) (slot : Slot) (raw : String) : Except UsageProblem Reading :=
  if (r.settled.lookup slot).isSome then .error .conflict
  else (slot.kind.read raw).map fun v => { r with settled := r.settled ++ [(slot, v)] }

def settle (r : Reading) : Except UsageProblem Reading :=
  match r.pending with
  | none => .ok r
  | some (_, none) => .error .missingValue
  | some (slot, some raw) => { r with pending := none }.give slot raw

def takeOption (r : Reading) (slot : Slot) (attached : Option String) :
    Except UsageProblem Reading := do
  let r ← r.settle
  match attached with
  | some raw => r.give slot raw
  | none => return { r with pending := some (slot, none) }

/-- Whatever was asked for on the way is answered only if all before it is settled. -/
def answer (r : Reading) (asked : UsageProblem) : Except UsageProblem Reading := do
  let _ ← r.settle
  .error asked

def takeLong (level : Level) (r : Reading) (text : List Char) : Except UsageProblem Reading :=
  let name := String.ofList (text.takeWhile (· != '='))
  let attached := match text.dropWhile (· != '=') with
    | [] => none
    | _ :: value => some (String.ofList value)
  if name == "help" || (level.isRoot && name == "version") then
    if attached.isSome then .error .unneededValue
    else r.answer (if name == "help" then .helpAsked else .versionAsked)
  else
    match level.options.find? (·.long == name) with
    | some slot => r.takeOption slot attached
    | none => .error .unknownArgument

def attachedTo : List Char → Option String
  | [] => none
  | '=' :: value => some (String.ofList value)
  | value => some (String.ofList value)

def takeShort (level : Level) (r : Reading) (letter : Char) (rest : List Char) :
    Except UsageProblem Reading :=
  if letter = 'h' then r.answer .helpAsked
  else if level.isRoot && letter == 'V' then r.answer .versionAsked
  else
    match level.options.find? (·.short? == some letter) with
    | some slot => r.takeOption slot (attachedTo rest)
    | none => .error .unknownArgument

def misplaced (level : Level) (r : Reading) (arg : String) : UsageProblem :=
  let isVerb := (Verb.ofWord? arg).isSome || arg == helpWord
  if level.isRoot && !(r.literal && isVerb) then .unknownVerb else .unknownArgument

def takePositional (level : Level) (r : Reading) (arg : String) : Except UsageProblem Reading :=
  match level.positional, r.positionalTaken with
  | some slot, false => do
    let r ← r.settle
    return { r with pending := some (slot, some arg), positionalTaken := true }
  | _, _ => .error (misplaced level r arg)

def takeValue (level : Level) (r : Reading) (arg : String) : Except UsageProblem Reading :=
  match r.pending with
  | some (slot, none) => .ok { r with pending := some (slot, some arg) }
  | _ => r.takePositional level arg

def take (level : Level) (r : Reading) (arg : String) : Except UsageProblem Reading :=
  if r.literal then r.takePositional level arg
  else
    match arg.toList with
    | ['-', '-'] => .ok { r with literal := true }
    | '-' :: '-' :: text => r.takeLong level text
    | '-' :: letter :: rest => r.takeShort level letter rest
    | _ => r.takeValue level arg

def text? (r : Reading) (slot : Slot) : Option String :=
  match r.settled.lookup slot with
  | some (.text s) => some s
  | _ => none

def number? (r : Reading) (slot : Slot) : Option UInt64 :=
  match r.settled.lookup slot with
  | some (.number n) => some n
  | _ => none

end Reading

inductive Task where
  | interact
  | run (program : String) (track : Option String) (preset turnDelay stepDelay : Option UInt64)
  | expand (program : String)
  | validate (track : String)
  | exportPreset (preset : UInt64) (name out : String)
  deriving DecidableEq, Repr

structure Invocation where
  config : Option String
  logFile : Option String
  task : Option Task
  deriving DecidableEq, Repr

def needed {α : Type} : Option α → Except UsageProblem α
  | some a => .ok a
  | none => .error .missingArgument

/-- The task of a verb from its arguments. A run takes its track from one place only. -/
def Verb.task (r : Reading) : Verb → Except UsageProblem Task
  | interact => .ok .interact
  | run =>
    if (r.text? .track).isSome && (r.number? .preset).isSome then .error .conflict
    else do
      return .run (← needed (r.text? .program)) (r.text? .track) (r.number? .preset)
        (r.number? .turnDelay) (r.number? .stepDelay)
  | expand => do return .expand (← needed (r.text? .program))
  | validate => do return .validate (← needed (r.text? .track))
  | exportPreset => do
    return .exportPreset (← needed (r.number? .preset)) (← needed (r.text? .name))
      (← needed (r.text? .out))

def readVerb (v : Verb) (args : List String) : Except UsageProblem Invocation := do
  let r ← (← args.foldlM (Reading.take v.level) .start).settle
  return ⟨r.text? .config, r.text? .logFile, some (← v.task r)⟩

def helpAbout : List String → UsageProblem
  | [] => .helpAsked
  | [word] => if (Verb.ofWord? word).isSome || word == helpWord then .helpAsked else .unknownVerb
  | _ => .unknownVerb

def readRoot (r : Reading) : List String → Except UsageProblem (Reading × Invocation)
  | [] => .ok (r, ⟨none, none, none⟩)
  | arg :: rest =>
    if r.literal || r.awaitsValue then do readRoot (← r.take rootLevel arg) rest
    else if arg == helpWord then .error (helpAbout rest)
    else
      match Verb.ofWord? arg with
      | some v => (readVerb v rest).map (r, ·)
      | none => do readRoot (← r.take rootLevel arg) rest

def Invocation.read (args : List String) : Except UsageProblem Invocation := do
  let (before, after) ← readRoot .start args
  let before ← before.settle
  return { after with config := after.config.or (before.text? .config)
                      logFile := after.logFile.or (before.text? .logFile) }

end GridRobot.CommandLine
