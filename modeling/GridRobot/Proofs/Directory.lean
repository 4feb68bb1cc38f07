import GridRobot.Directory

/-! Writing and reading back. A file is put where no folder is, so the folders on the way to it
are the same before and after; the place that was written to is then the place that is read. -/
namespace GridRobot.Directory

variable {d : Directory} {place : List String}

theorem utf8Back (text : String) : String.fromUTF8? ⟨text.toUTF8.data⟩ = some text := by
  have valid : (⟨text.toUTF8.data⟩ : ByteArray).IsValidUTF8 := text.isValidUTF8
  rw [String.fromUTF8?,dif_pos valid]
  rfl

theorem lookupOther {p : List String} (other : p ≠ place) (entries : List (List String × Entry)) :
    (entries.filter (·.1 != place)).lookup p = entries.lookup p := by
  induction entries with
  | nil => rfl
  | cons entry entries ih =>
    rw [List.filter_cons]
    split
    · rw [List.lookup_cons,List.lookup_cons,ih]
    · rename_i replaced
      have here : entry.1 = place := by simpa using replaced
      rw [List.lookup_cons,ih,here,beq_false_of_ne other]

theorem entrySet (free : d.entry? place ≠ some .folder) (e : Entry) (p : List String) :
    entry? (d.set place e) p = if p = place then some e else d.entry? p := by
  unfold entry? set
  split
  · rename_i above
    have other : p ≠ place := by
      rintro rfl
      exact free (if_pos above)
    rw [if_neg other]
  · by_cases same : p = place
    · rw [if_pos same,same,List.lookup_cons_self]
    · rw [if_neg same,List.lookup_cons,beq_false_of_ne same]
      exact lookupOther same d.entries

theorem followSet (free : d.entry? place ≠ some .folder) (e : Entry) {folder names last : List String}
    (followed : d.follow folder names = .ok last) :
    (d.set place e).follow folder names = .ok last := by
  induction names generalizing folder with
  | nil => exact followed
  | cons name names ih =>
    unfold follow at followed ⊢
    split at followed
    · contradiction
    · rename_i short
      rw [if_neg short]
      split at followed
      · rename_i inside
        have kept : entry? (d.set place e) (enter folder name) = some .folder := by
          rw [entrySet free]
          split
          · rename_i same
            exact absurd (same ▸ inside) free
          · exact inside
        rw [kept]
        exact ih followed
      · contradiction
      · contradiction

theorem locateSet (free : d.entry? place ≠ some .folder) (e : Entry) {path : String}
    {found : List String × String} (located : d.locate path = .ok found) :
    (d.set place e).locate path = .ok found := by
  unfold locate at located ⊢
  split at located
  · contradiction
  · rename_i noNul
    rw [if_neg noNul]
    split at located
    · contradiction
    · rename_i short
      rw [if_neg short]
      split at located
      · contradiction
      · rename_i given
        rw [if_neg given]
        cases followed : d.follow (d.origin path) (names path).dropLast with
        | error fault =>
          rw [followed] at located
          contradiction
        | ok folder =>
          have again : (d.set place e).follow ((d.set place e).origin path)
              (names path).dropLast = .ok folder := followSet free e followed
          rw [followed] at located
          rw [again]
          exact located

theorem findWritten {d' : Directory} {path text : String} (written : d.write path text = .ok d') :
    ∃ place, d'.find path = .ok (place,.file text.toUTF8.data) := by
  unfold write at written
  cases located : d.locate path with
  | error fault => simp [located,bind,Except.bind] at written
  | ok found =>
    obtain ⟨folder,last⟩ := found
    simp only [located,bind,Except.bind,throw,throwThe,MonadExceptOf.throw,pure,Except.pure] at written
    split at written
    · contradiction
    · rename_i noSlash
      split at written
      · contradiction
      · rename_i short
        split at written
        · contradiction
        · contradiction
        · rename_i free _
          cases written
          refine ⟨enter folder last,?_⟩
          simp [find,locateSet free _ located,entrySet free,noSlash,short,bind,Except.bind,pure,
            Except.pure]

def content : Entry → Except Fault String
  | .folder => .error .isFolder
  | .sealed reason => .error (.other reason)
  | .file bytes =>
    match String.fromUTF8? ⟨bytes⟩ with
    | some text => .ok text
    | none => .error .notUnicode

theorem readFound {path : String} {e : Entry} (found : d.find path = .ok (place,e)) :
    d.read path = content e := by
  simp only [read,found,bind,Except.bind]
  cases e with
  | folder | sealed => rfl
  | file bytes =>
    unfold content
    cases String.fromUTF8? ⟨bytes⟩ <;> rfl

theorem readWritten {d' : Directory} {path text : String} (written : d.write path text = .ok d') :
    d'.read path = .ok text := by
  obtain ⟨place,found⟩ := findWritten written
  simp only [readFound found,content,utf8Back]

theorem foundOfRead {path text : String} (read : d.read path = .ok text) :
    ∃ place e, d.find path = .ok (place,e) ∧ content e = .ok text := by
  cases found : d.find path with
  | error fault => simp [Directory.read,found,bind,Except.bind] at read
  | ok entry => exact ⟨entry.1,entry.2,rfl,(readFound found).symm.trans read⟩

theorem isFileFound {path : String} {e : Entry} (found : d.find path = .ok (place,e)) :
    d.isFile path = true ↔ e ≠ .folder := by
  cases e <;> simp [isFile,found]

theorem readFile {path text : String} (read : d.read path = .ok text) : d.isFile path = true := by
  obtain ⟨place,e,found,said⟩ := foundOfRead read
  refine (isFileFound found).mpr ?_
  rintro rfl
  contradiction

def beside : Directory := ⟨["home"],[(["tmp"],.folder)]⟩

/- From the root or from the directory, it is the same file. -/
example {d : Directory} {text : String} (written : beside.write "/tmp/t.json" text = .ok d) :
    d.read "../tmp/t.json" = .ok text := by
  cases written
  have found : (beside.set ["tmp","t.json"] (.file text.toUTF8.data)).find "../tmp/t.json" =
    .ok (["tmp","t.json"],.file text.toUTF8.data) := rfl
  exact (readFound found).trans (by rw [content,utf8Back])

end GridRobot.Directory
