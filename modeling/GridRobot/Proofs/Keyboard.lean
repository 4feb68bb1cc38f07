import GridRobot.Keyboard

/-! What keys can mean. A key press means something only through a binding of its key, so the
actions that a mode has no binding for are out of reach in it, and a few actions belong to one key
alone. Shift alone may be held with any binding that asks for nothing; it also finds the one binding
of a key that asks for something else. -/
namespace GridRobot.Mode

variable {m : Mode} {key : Key} {held : Modifiers} {action : Action}

theorem lookupBinding (found : m.lookup key held = some action) :
    ∃ b ∈ m.bindings, b.key = key ∧ b.action = action ∧
      (b.modifiers = held ∨ held = .shiftOnly) := by
  obtain ⟨b,chosen,same⟩ := Option.map_eq_some_iff.mp found
  rcases Option.or_eq_some_iff.mp chosen with exact' | ⟨_,shifted⟩
  · have fits := List.find?_some exact'
    simp only [Binding.isExactly,Bool.and_eq_true,beq_iff_eq] at fits
    exact ⟨b,List.mem_of_find?_eq_some exact',fits.1,same,.inl fits.2⟩
  · have fits := List.find?_some shifted
    simp only [Binding.isShifted,Bool.and_eq_true,beq_iff_eq] at fits
    exact ⟨b,List.mem_of_find?_eq_some shifted,fits.1,same,.inr fits.2⟩

def actions (m : Mode) : List Action := m.bindings.map (·.action)

theorem lookupAction (found : m.lookup key held = some action) : action ∈ m.actions := by
  obtain ⟨b,inside,_,rfl,_⟩ := lookupBinding found
  exact List.mem_map_of_mem inside

theorem lookupKey {only : Key} (bound : ∀ b ∈ m.bindings, b.action = action → b.key = only)
    (found : m.lookup key held = some action) : key = only := by
  obtain ⟨b,inside,rfl,same,_⟩ := lookupBinding found
  exact bound b inside same

def Asks (m : Mode) (key : Key) (asked : Modifiers) : Prop :=
  ∃ b ∈ m.bindings, b.key = key ∧ b.modifiers = asked

/- The meaning of a press by the bindings alone, whatever their order: that of a binding with just
the modifiers held; failing that, and with shift alone, that of a binding without modifiers; and
otherwise none. -/
inductive Means (m : Mode) (key : Key) (held : Modifiers) : Option Action → Prop where
  | exactly {b : Binding} (bound : b ∈ m.bindings) (on : b.key = key) (fits : b.modifiers = held) :
      Means m key held (some b.action)
  | shifted {b : Binding} (bound : b ∈ m.bindings) (on : b.key = key) (plain : b.modifiers = .none)
      (unfit : ¬ m.Asks key held) (shift : held = .shiftOnly) : Means m key held (some b.action)
  | nothing (unfit : ¬ m.Asks key held) (unshifted : held = .shiftOnly → ¬ m.Asks key .none) :
      Means m key held none

/- The one press whose only binding asks for control and is found without it. -/
def DropsControl (m : Mode) (key : Key) (held : Modifiers) : Prop :=
  m = .configuring ∧ key = .char 'c' ∧ held = .shiftOnly

theorem askedAction {b b' : Binding} (bound : b ∈ m.bindings) (bound' : b' ∈ m.bindings)
    (on : b.key = b'.key) (asked : b.modifiers = b'.modifiers) : b.action = b'.action := by
  have distinct : ∀ m : Mode, ∀ b ∈ m.bindings, ∀ b' ∈ m.bindings,
      b.key = b'.key → b.modifiers = b'.modifiers → b.action = b'.action := by
    rintro (_ | _) <;> decide +kernel
  exact distinct m b bound b' bound' on asked

theorem meansOnce {first second : Option Action} (means : m.Means key held first)
    (means' : m.Means key held second) : first = second := by
  cases means with
  | exactly bound on fits =>
    cases means' with
    | exactly bound' on' fits' =>
      rw [askedAction bound bound' (on.trans on'.symm) (fits.trans fits'.symm)]
    | shifted _ _ _ unfit | nothing unfit => exact absurd ⟨_,bound,on,fits⟩ unfit
  | shifted bound on plain unfit shift =>
    cases means' with
    | exactly bound' on' fits' => exact absurd ⟨_,bound',on',fits'⟩ unfit
    | shifted bound' on' plain' =>
      rw [askedAction bound bound' (on.trans on'.symm) (plain.trans plain'.symm)]
    | nothing _ unshifted => exact absurd ⟨_,bound,on,plain⟩ (unshifted shift)
  | nothing unfit unshifted =>
    cases means' with
    | exactly bound' on' fits' => exact absurd ⟨_,bound',on',fits'⟩ unfit
    | shifted bound' on' plain' _ shift => exact absurd ⟨_,bound',on',plain'⟩ (unshifted shift)
    | nothing => rfl

theorem firstPlain {b : Binding} (found : m.bindings.find? (·.isShifted key .shiftOnly) = some b) :
    b.modifiers = .none ∨ m = .configuring ∧ key = .char 'c' := by
  have first : ∀ m : Mode, ∀ b ∈ m.bindings,
      m.bindings.find? (·.isShifted b.key .shiftOnly) = some b →
        b.modifiers = .none ∨ m = .configuring ∧ b.key = .char 'c' := by
    rintro (_ | _) <;> decide +kernel
  have on : b.key = key := by
    have fits := List.find?_some found
    simpa [Binding.isShifted] using fits
  subst on
  exact first m b (List.mem_of_find?_eq_some found) found

theorem asksNot (missed : m.bindings.find? (·.isExactly key held) = none) : ¬ m.Asks key held := by
  rintro ⟨b,bound,on,fits⟩
  exact absurd (List.find?_eq_none.mp missed b bound) (by simp [Binding.isExactly,on,fits])

theorem lookupMeans (sound : ¬ m.DropsControl key held) : m.Means key held (m.lookup key held) := by
  unfold lookup
  cases chosen : m.bindings.find? (·.isExactly key held) with
  | some b =>
    have fits := List.find?_some chosen
    simp only [Binding.isExactly,Bool.and_eq_true,beq_iff_eq] at fits
    exact .exactly (List.mem_of_find?_eq_some chosen) fits.1 fits.2
  | none =>
    have unfit := asksNot chosen
    cases second : m.bindings.find? (·.isShifted key held) with
    | some b =>
      have fits := List.find?_some second
      simp only [Binding.isShifted,Bool.and_eq_true,beq_iff_eq] at fits
      obtain ⟨on,rfl⟩ := fits
      have plain := (firstPlain second).resolve_right fun drops => sound ⟨drops.1,drops.2,rfl⟩
      exact .shifted (List.mem_of_find?_eq_some second) on plain unfit rfl
    | none =>
      refine .nothing unfit fun shift => ?_
      rintro ⟨b,bound,on,_⟩
      exact absurd (List.find?_eq_none.mp second b bound) (by simp [Binding.isShifted,on,shift])

theorem dropsControl (drops : m.DropsControl key held) :
    m.lookup key held = some .quit ∧ m.Means key held none := by
  obtain ⟨rfl,rfl,rfl⟩ := drops
  refine ⟨by decide +kernel,.nothing ?_ fun _ => ?_⟩ <;>
  · rintro ⟨b,bound,on,asked⟩
    revert b
    decide +kernel

theorem lookupQuit : m.lookup key held = some .quit ↔
    key = .char 'q' ∧ (held = .none ∨ held = .shiftOnly) ∨ key = .char 'c' ∧ held = .ctrlOnly ∨
      m.DropsControl key held := by
  constructor
  · intro found
    have quits : ∀ m : Mode, ∀ b ∈ m.bindings, b.action = .quit →
        b.key = .char 'q' ∧ b.modifiers = .none ∨ b.key = .char 'c' ∧ b.modifiers = .ctrlOnly := by
      rintro (_ | _) <;> decide +kernel
    obtain ⟨b,bound,rfl,same,fits⟩ := lookupBinding found
    rcases quits m b bound same with ⟨on,plain⟩ | ⟨on,asked⟩
    · exact .inl ⟨on,fits.imp_left fun fit => fit.symm.trans plain⟩
    · rcases fits with rfl | rfl
      · exact .inr (.inl ⟨on,asked⟩)
      · rw [on] at found
        cases m with
        | configuring => exact .inr (.inr ⟨rfl,on,rfl⟩)
        | programming => exact absurd found (by decide +kernel)
  · rintro (⟨rfl,rfl | rfl⟩ | ⟨rfl,rfl⟩ | drops)
    · cases m <;> decide +kernel
    · cases m <;> decide +kernel
    · cases m <;> decide +kernel
    · exact (dropsControl drops).1

end GridRobot.Mode
