import GridRobot.Document
import GridRobot.Proofs.Directory

/-! Saving and loading, whatever the format is. A file that cannot be read, a text that cannot be
parsed and a value that is refused are told apart; a value that has been saved comes back if its
own text is read as it and it is valid. -/
namespace GridRobot.DocumentFormat

variable {α : Type} {f : DocumentFormat α} {a : α} {d d' : Directory} {path : String}

inductive Loads (f : DocumentFormat α) (path : String) :
    Except Directory.Fault String → Except DocumentError α → Prop where
  | unread (fault : Directory.Fault) : Loads f path (.error fault) (.error (.unreadable f.kind path fault))
  | unparsed {text problem} (other : f.reader.document text = .error problem) :
      Loads f path (.ok text) (.error (.unparsable f.kind problem))
  | refused {text a e} (parsed : f.reader.document text = .ok a) (invalid : f.validate a = .error e) :
      Loads f path (.ok text) (.error (.invalid e))
  | accepted {text a} (parsed : f.reader.document text = .ok a) (valid : f.validate a = .ok ()) :
      Loads f path (.ok text) (.ok a)

theorem loads (f : DocumentFormat α) (d : Directory) (path : String) :
    Loads f path (d.read path) (f.load d path) := by
  unfold load
  cases d.read path with
  | error fault => exact .unread fault
  | ok text =>
    dsimp only [ofRead,parse]
    split
    · exact .unparsed (by assumption)
    · rename_i parsed
      split
      · exact .refused parsed (by assumption)
      · exact .accepted parsed (by assumption)

theorem loadAccepted : f.load d path = .ok a ↔
    f.validate a = .ok () ∧ ∃ text, d.read path = .ok text ∧ f.reader.document text = .ok a := by
  constructor
  · intro loaded
    have known := f.loads d path
    rw [loaded] at known
    generalize d.read path = content at known ⊢
    cases known with
    | accepted parsed valid => exact ⟨valid,_,rfl,parsed⟩
  · rintro ⟨valid,text,read,parsed⟩
    simp only [load,ofRead,parse,read,parsed,valid]

theorem loadKept (own : f.reader.document (f.text a) = .ok a) (kept : d.read path = .ok (f.text a)) :
    f.load d path = match f.validate a with
      | .ok () => .ok a
      | .error e => .error (.invalid e) := by
  simp only [load,ofRead,parse,kept,own]
  cases f.validate a <;> rfl

theorem saveWritten (saved : f.save a d path = .ok d') : d.write path (f.text a) = .ok d' := by
  simp only [save,ofWritten] at saved
  split at saved
  · contradiction
  · rename_i written
    cases saved
    exact written

theorem saveRead (saved : f.save a d path = .ok d') : d'.read path = .ok (f.text a) :=
  Directory.readWritten (saveWritten saved)

end GridRobot.DocumentFormat
