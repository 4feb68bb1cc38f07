import GridRobot.Json.Token
import GridRobot.Proofs.Json.Grammar

/-! Cutting well-formed texts. Space leaves no trace among the tokens; every mark, word,
string and number is one token, and what comes after it is cut as if it stood alone. -/
namespace GridRobot.Json

theorem tokensHead {c : Char} (solid : isSpace c = false) (cs : List Char) :
    tokens (c :: cs) = (token c cs).1 :: ((token c cs).2.map tokens).getD [] := by
  unfold tokens
  rw [lexemes.eq_def]
  simp only [solid,Bool.false_eq_true,if_false]
  split <;> rename_i cut <;> rw [cut] <;> rfl

theorem tokensCut {c : Char} {cs after : List Char} {t : Token} (solid : isSpace c = false)
    (cut : token c cs = (t,some after)) : tokens (c :: cs) = t :: tokens after := by
  rw [tokensHead solid,cut]
  rfl

theorem spaceMember {c : Char} : isSpace c = true ↔ c ∈ spaces := by
  simp [isSpace,spaces,or_assoc]

theorem tokensGap (gap : Gap) (rest : List Char) : tokens (gap.chars ++ rest) = tokens rest := by
  obtain ⟨cs,space⟩ := gap
  dsimp only
  induction cs with
  | nil => rfl
  | cons c cs ih =>
    have blank := spaceMember.mpr (space c List.mem_cons_self)
    rw [← ih fun d inside => space d (List.mem_cons_of_mem _ inside),List.cons_append]
    conv => lhs; unfold tokens; rw [lexemes.eq_def]
    simp only [blank,if_true]
    rfl

theorem tokensNil : tokens [] = [] := by
  unfold tokens
  rw [lexemes.eq_def]
  rfl

theorem tokensMark {c : Char} {t : Token} (mark : mark? c = some t) (rest : List Char) :
    tokens (c :: rest) = t :: tokens rest := by
  refine tokensCut ?_ (by simp only [token,mark])
  unfold mark? at mark
  split at mark <;> first | rfl | contradiction

theorem tokensNull (rest : List Char) :
    tokens ("null".toList ++ rest) = .word (.ok .null) :: tokens rest :=
  tokensCut rfl rfl

theorem tokensBool (b : Bool) (rest : List Char) :
    tokens (writeBool b ++ rest) = .word (.ok (if b then .true else .false)) :: tokens rest := by
  cases b <;> exact tokensCut rfl rfl

/-! What follows a value, an item or a member. -/

theorem intercalateCons {γ : Type} {sep : γ} (part : List γ) (parts : List (List γ)) :
    [sep].intercalate (part :: parts) = part ++ parts.flatMap (sep :: ·) := by
  induction parts generalizing part with
  | nil => simp
  | cons next parts ih => rw [List.intercalate_cons_cons,ih]; simp

def joined : Bool → List (List Char) → List Char
  | true,parts => [','].intercalate parts
  | false,parts => parts.flatMap (',' :: ·)

theorem gapEnds {gap : Gap} {rest : List Char} (ends : Ends rest) : Ends (gap.chars ++ rest) := by
  obtain ⟨cs,space⟩ := gap
  cases cs with
  | nil => exact ends
  | cons c cs =>
    intro d first
    cases first
    exact List.mem_append_left _ (space c List.mem_cons_self)

theorem gapNothing (gap : Gap) : Ends gap.chars ∧ tokens gap.chars = [] := by
  have empty : Ends [] := by intro c none; cases none
  have ends := @gapEnds gap [] empty
  have cut := tokensGap gap []
  rw [List.append_nil] at ends cut
  exact ⟨ends,cut.trans tokensNil⟩

theorem laterEnds (parts : List (List Char)) {gap : Gap} {c : Char} (close : c = ']' ∨ c = '}')
    (rest : List Char) : Ends (parts.flatMap (',' :: ·) ++ (gap.chars ++ c :: rest)) := by
  cases parts with
  | nil =>
    refine gapEnds fun d first => ?_
    cases first
    rcases close with rfl | rfl <;> decide
  | cons part parts =>
    intro d first
    cases first
    decide

/-! Strings. -/

theorem shortEscapeMember {e c : Char} : (e,c) ∈ shortEscapes → shortEscape? e = some c := by
  intro listed
  have all : ∀ p ∈ shortEscapes, shortEscape? p.1 = some p.2 := by decide
  exact all _ listed

theorem shortEscapeNotUnit {e c : Char} (listed : (e,c) ∈ shortEscapes) : e ≠ 'u' := by
  have all : ∀ p ∈ shortEscapes, p.1 ≠ 'u' := by decide
  exact all _ listed

theorem quadUnit {q : List Char} {n : Nat} (quad : Quad q n) (rest : List Char) :
    hexUnit (q ++ rest) = .ok (n,rest) := by
  obtain ⟨i,j,k,l,digits,rfl⟩ := quad
  obtain ⟨a,q,rfl,da,digits⟩ := List.map_eq_cons_iff.mp digits
  obtain ⟨b,q,rfl,db,digits⟩ := List.map_eq_cons_iff.mp digits
  obtain ⟨c,q,rfl,dc,digits⟩ := List.map_eq_cons_iff.mp digits
  obtain ⟨d,q,rfl,dd,digits⟩ := List.map_eq_cons_iff.mp digits
  cases List.map_eq_nil_iff.mp digits
  have enough : fourBytesLeft (a :: b :: c :: d :: rest) = true := by
    have := a.utf8Size_pos
    have := b.utf8Size_pos
    have := c.utf8Size_pos
    have := d.utf8Size_pos
    refine decide_eq_true (p := 4 ≤ 0 + a.utf8Size + b.utf8Size + c.utf8Size + d.utf8Size) ?_
    omega
  change hexUnit (a :: b :: c :: d :: rest) = _
  rw [hexUnit,if_pos enough]
  simp only [da,db,dc,dd]

theorem skipTextPlain {c : Char} (ordinary : Ordinary c) (rest : List Char) :
    skipText (c :: rest) = skipText rest := by
  obtain ⟨quote,backslash,large⟩ := ordinary
  rw [skipText.eq_def]
  simp only [quote,backslash,Nat.not_lt.mpr large,if_false]

theorem skipTextEscape {cs after : List Char} (escaped : skipEscape cs = .ok after) :
    skipText ('\\' :: cs) = skipText after := by
  rw [skipText.eq_def]
  simp only [Char.reduceEq,if_false,if_true]
  split
  · rename_i broken
    rw [escaped] at broken
    contradiction
  · rename_i after' same
    rw [escaped] at same
    cases same
    rfl

theorem skipTextForm {cs : List Char} (form : TextForm cs) (rest : List Char) :
    skipText (cs ++ '"' :: rest) = .ok rest := by
  induction form with
  | done => rw [List.nil_append,skipText.eq_def]; rfl
  | plain ordinary _ ih => rw [List.cons_append,skipTextPlain ordinary,ih]
  | @short e c cs escape _ ih =>
    have escaped : skipEscape (e :: (cs ++ '"' :: rest)) = .ok (cs ++ '"' :: rest) := by
      simp only [skipEscape,shortEscapeNotUnit escape,shortEscapeMember escape,if_false,
        Option.isSome_some,if_true]
    rw [List.cons_append,List.cons_append,skipTextEscape escaped,ih]
  | @unit q n cs quad _ ih =>
    have escaped : skipEscape ('u' :: (q ++ (cs ++ '"' :: rest))) = .ok (cs ++ '"' :: rest) := by
      simp only [skipEscape,if_true,quadUnit quad,Except.map]
    rw [List.cons_append,List.cons_append,List.append_assoc,skipTextEscape escaped,ih]

theorem readTextPlain {c : Char} {rest s last : List Char} (ordinary : Ordinary c)
    (later : readText rest = .ok (s,last)) : readText (c :: rest) = .ok (c :: s,last) := by
  obtain ⟨quote,backslash,large⟩ := ordinary
  rw [readText.eq_def]
  simp only [quote,backslash,Nat.not_lt.mpr large,if_false,later,Except.map]

theorem readTextEscape {c : Char} {cs after s last : List Char}
    (escaped : readEscape cs = .ok (c,after)) (later : readText after = .ok (s,last)) :
    readText ('\\' :: cs) = .ok (c :: s,last) := by
  rw [readText.eq_def]
  simp only [Char.reduceEq,if_false,if_true]
  split
  · rename_i broken
    rw [escaped] at broken
    contradiction
  · rename_i c' after' same
    rw [escaped] at same
    cases same
    rw [later]
    rfl

theorem readQuad {q : List Char} {n : Nat} (quad : Quad q n) (whole : n < 0xD800 ∨ 0xDFFF < n)
    (rest : List Char) : readEscape ('u' :: (q ++ rest)) = .ok (Char.ofNat n,rest) := by
  have notTrailing : isTrailing n = false := by
    simp only [isTrailing,Bool.and_eq_false_iff,decide_eq_false_iff_not]
    omega
  have notLeading : isLeading n = false := by
    simp only [isLeading,Bool.and_eq_false_iff,decide_eq_false_iff_not]
    omega
  simp only [readEscape,readUnicode,quadUnit quad,notTrailing,notLeading,if_true,
    Bool.false_eq_true,if_false]

theorem readPair {q q' : List Char} {high low : Nat} (first : Quad q high) (second : Quad q' low)
    (leading : 0xD800 ≤ high ∧ high ≤ 0xDBFF) (trailing : 0xDC00 ≤ low ∧ low ≤ 0xDFFF)
    (rest : List Char) :
    readEscape ('u' :: (q ++ '\\' :: 'u' :: (q' ++ rest))) =
      .ok (Char.ofNat (0x10000 + (high - 0xD800) * 0x400 + (low - 0xDC00)),rest) := by
  have isFirst : isLeading high = true := by simp [isLeading,leading]
  have notTrailing : isTrailing high = false := by
    simp only [isTrailing,Bool.and_eq_false_iff,decide_eq_false_iff_not]
    omega
  have isSecond : isTrailing low = true := by simp [isTrailing,trailing]
  have sum : (high - 0xD800) * 0x400 + (low - 0xDC00) + 0x10000 =
      0x10000 + (high - 0xD800) * 0x400 + (low - 0xDC00) := by omega
  simp only [readEscape,readUnicode,readTrailing,quadUnit first,quadUnit second,notTrailing,
    isFirst,isSecond,joinSurrogates,sum,if_true,Bool.false_eq_true,if_false]

theorem readTextMeans {cs s : List Char} (means : Means cs s) (rest : List Char) :
    readText (cs ++ '"' :: rest) = .ok (s,rest) := by
  induction means with
  | done => rw [List.nil_append,readText.eq_def]; rfl
  | plain ordinary _ ih =>
    rw [List.cons_append]
    exact readTextPlain ordinary ih
  | short escape _ ih =>
    rw [List.cons_append,List.cons_append]
    refine readTextEscape ?_ ih
    simp only [readEscape,shortEscapeNotUnit escape,shortEscapeMember escape,if_false]
  | unit quad whole _ ih =>
    rw [List.cons_append,List.cons_append,List.append_assoc]
    exact readTextEscape (readQuad quad whole _) ih
  | pair first second leading trailing _ ih =>
    simp only [List.cons_append,List.append_assoc]
    exact readTextEscape (readPair first second leading trailing _) ih

theorem tokensText {cs : List Char} (form : TextForm cs) (rest : List Char) :
    tokens ('"' :: (cs ++ '"' :: rest)) =
      .text ((readText (cs ++ '"' :: rest)).map (·.1)) (.ok ()) :: tokens rest := by
  refine tokensCut rfl ?_
  simp only [token,skipTextForm form]
  rfl

theorem tokensMeans {cs s : List Char} (means : Means cs s) (rest : List Char) :
    tokens ('"' :: (cs ++ '"' :: rest)) = .text (.ok s) (.ok ()) :: tokens rest := by
  rw [tokensText means.form,readTextMeans means]
  rfl

/-! Numbers. -/

def NoDigit (cs : List Char) : Prop := ∀ c ∈ cs.head?, c.isDigit = false

theorem Ends.noDigit {rest : List Char} (ends : Ends rest) : NoDigit rest := by
  intro c first
  have all : ∀ c ∈ spaces ++ [',',']','}'], c.isDigit = false := by simp [spaces]
  exact all c (ends c first)

theorem Ends.noPart {rest : List Char} (ends : Ends rest) :
    ∀ c ∈ rest.head?, c ≠ '.' ∧ c ≠ 'e' ∧ c ≠ 'E' := by
  intro c first
  have all : ∀ c ∈ spaces ++ [',',']','}'], c ≠ '.' ∧ c ≠ 'e' ∧ c ≠ 'E' := by simp [spaces]
  exact all c (ends c first)

theorem digitsTaken {ds rest : List Char} (digits : ∀ d ∈ ds, d.isDigit = true)
    (stop : NoDigit rest) : digitsOf (ds ++ rest) = ds ∧ afterDigits (ds ++ rest) = rest := by
  have none : digitsOf rest = [] ∧ afterDigits rest = rest := by
    cases rest with
    | nil => exact ⟨rfl,rfl⟩
    | cons c rest =>
      have letter := stop c rfl
      exact ⟨List.takeWhile_cons_of_neg (by simp [letter]),
        List.dropWhile_cons_of_neg (by simp [letter])⟩
  constructor
  · rw [digitsOf,List.takeWhile_append_of_pos digits]
    exact (congrArg (ds ++ ·) none.1).trans (List.append_nil ds)
  · rw [afterDigits,List.dropWhile_append_of_pos digits]
    exact none.2

theorem someDigitsAll {ds rest : List Char} (digits : Digits ds) (stop : NoDigit rest) :
    someDigits (ds ++ rest) = .ok (ds,rest) := by
  obtain ⟨filled,all⟩ := digits
  obtain ⟨taken,left⟩ := digitsTaken all stop
  obtain ⟨d,more,rfl⟩ := List.exists_cons_of_ne_nil filled
  unfold someDigits
  rw [taken,left]

theorem wholeScanned {whole rest : List Char} (form : WholeForm whole) (stop : NoDigit rest) :
    scanWhole (whole ++ rest) = .ok (whole,rest) := by
  rcases form with rfl | ⟨digits,noZero⟩
  · cases rest with
    | nil => rfl
    | cons c rest =>
      have letter := stop c rfl
      simp [scanWhole,letter]
  · have plain : scanWhole (whole ++ rest) = someDigits (whole ++ rest) := by
      obtain ⟨d,more,rfl⟩ := List.exists_cons_of_ne_nil digits.1
      unfold scanWhole
      split
      · rename_i same
        cases (List.cons.inj same).1
        exact absurd rfl noZero
      · rfl
    rw [plain,someDigitsAll digits stop]

theorem noFraction {rest : List Char} (noPoint : ∀ c ∈ rest.head?, c ≠ '.') :
    scanFraction rest = .ok ([],rest) := by
  cases rest with
  | nil => rfl
  | cons c rest =>
    have other := noPoint c rfl
    simp [scanFraction,other]

theorem noPower {rest : List Char} (noMark : ∀ c ∈ rest.head?, c ≠ 'e' ∧ c ≠ 'E') :
    scanPower rest = .ok ((false,[]),rest) := by
  cases rest with
  | nil => rfl
  | cons c rest =>
    have other := noMark c rfl
    simp [scanPower,other]

theorem fractionScanned {fraction rest : List Char} (form : FractionForm fraction)
    (stop : NoDigit rest) (noPoint : ∀ c ∈ rest.head?, c ≠ '.') :
    ∃ ds, scanFraction (fraction ++ rest) = .ok (ds,rest) := by
  rcases form with rfl | ⟨ds,digits,rfl⟩
  · exact ⟨[],noFraction noPoint⟩
  · exact ⟨ds,someDigitsAll digits stop⟩

theorem signScanned {sign ds : List Char} (form : sign = [] ∨ sign = ['+'] ∨ sign = ['-'])
    (digits : Digits ds) (rest : List Char) :
    (scanSign (sign ++ (ds ++ rest))).2 = ds ++ rest := by
  rcases form with rfl | rfl | rfl
  · obtain ⟨d,more,rfl⟩ := List.exists_cons_of_ne_nil digits.1
    have digit := digits.2 d List.mem_cons_self
    have plus : d ≠ '+' := by rintro rfl; contradiction
    have minus : d ≠ '-' := by rintro rfl; contradiction
    simp [scanSign,plus,minus]
  · rfl
  · rfl

theorem powerScanned {power rest : List Char} (form : PowerForm power) (stop : NoDigit rest)
    (noMark : ∀ c ∈ rest.head?, c ≠ 'e' ∧ c ≠ 'E') :
    ∃ p, scanPower (power ++ rest) = .ok (p,rest) := by
  rcases form with rfl | ⟨e,sign,ds,mark,signs,digits,rfl⟩
  · exact ⟨(false,[]),noPower noMark⟩
  · refine ⟨((scanSign (sign ++ (ds ++ rest))).1,ds),?_⟩
    rw [List.cons_append,List.append_assoc]
    simp only [scanPower,mark,if_true,signScanned signs digits,someDigitsAll digits stop]
    rfl

theorem numeralScanned {minus whole cs cs' rest fraction : List Char} {power : Bool × List Char}
    (signed : minus = [] ∨ minus = ['-']) (form : WholeForm whole) (stop : NoDigit cs)
    (pointed : scanFraction cs = .ok (fraction,cs')) (raised : scanPower cs' = .ok (power,rest)) :
    scanNumeral (minus ++ (whole ++ cs)) = .ok (⟨minus == ['-'],whole,fraction,power⟩,rest) := by
  have scanned := wholeScanned form stop
  rcases signed with rfl | rfl
  · have unsigned : ∀ rest, whole ++ cs ≠ '-' :: rest := by
      intro rest same
      rcases form with rfl | ⟨digits,_⟩
      · cases (List.cons.inj same).1
      · obtain ⟨d,more,rfl⟩ := List.exists_cons_of_ne_nil digits.1
        cases (List.cons.inj same).1
        exact absurd (digits.2 _ List.mem_cons_self) (by decide)
    rw [List.nil_append,scanNumeral.eq_2 _ unsigned]
    simp only [scanned,pointed,raised,bind,Except.bind,pure,Except.pure]
    rfl
  · rw [List.singleton_append,scanNumeral.eq_1]
    simp only [scanned,pointed,raised,bind,Except.bind,pure,Except.pure]
    rfl

theorem numberScanned {cs rest : List Char} (form : NumberForm cs) (ends : Ends rest) :
    ∃ n, scanNumeral (cs ++ rest) = .ok (n,rest) := by
  obtain ⟨minus,whole,fraction,power,signed,wholeForm,fractionForm,powerForm,rfl⟩ := form
  have powerStop : NoDigit (power ++ rest) ∧ ∀ c ∈ (power ++ rest).head?, c ≠ '.' := by
    rcases powerForm with rfl | ⟨e,sign,ds,rfl | rfl,_,_,rfl⟩
    · exact ⟨ends.noDigit,fun c first => (ends.noPart c first).1⟩
    · exact ⟨fun c first => by cases first; rfl,by simp⟩
    · exact ⟨fun c first => by cases first; rfl,by simp⟩
  have fractionStop : NoDigit (fraction ++ (power ++ rest)) := by
    rcases fractionForm with rfl | ⟨ds,_,rfl⟩
    · exact powerStop.1
    · intro c first
      cases first
      rfl
  obtain ⟨f,pointed⟩ := fractionScanned fractionForm powerStop.1 powerStop.2
  obtain ⟨p,raised⟩ := powerScanned powerForm ends.noDigit fun c first => (ends.noPart c first).2
  rw [List.append_assoc,List.append_assoc,List.append_assoc]
  exact ⟨_,numeralScanned signed wholeForm fractionStop pointed raised⟩

theorem tokensNumeral {c : Char} {cs rest : List Char} {n : Numeral} (begins : beginsNumber c = true)
    (scanned : scanNumeral (c :: cs) = .ok (n,rest)) :
    tokens (c :: cs) = .number (n.value rest) (.ok ()) :: tokens rest := by
  have unmarked : mark? c = none := by
    unfold mark?
    split <;> first | rfl | contradiction
  have noWord : wordFrom? c = none := by
    unfold wordFrom?
    split <;> first | rfl | contradiction
  have noQuote : c ≠ '"' := by rintro rfl; contradiction
  have solid : isSpace c = false := by
    have all : ∀ c ∈ spaces, beginsNumber c = false := by simp [spaces,beginsNumber]
    cases space : isSpace c with
    | false => rfl
    | true => exact absurd begins (by simp [all c (spaceMember.mp space)])
  refine tokensCut solid ?_
  simp only [token,unmarked,noWord,noQuote,begins,scanned,if_true,if_false]

theorem tokensNumber {cs rest : List Char} (form : NumberForm cs) (ends : Ends rest) :
    ∃ value, tokens (cs ++ rest) = .number value (.ok ()) :: tokens rest := by
  have begins : ∃ c more, cs = c :: more ∧ beginsNumber c = true := by
    obtain ⟨minus,whole,fraction,power,rfl | rfl,wholeForm,_,_,rfl⟩ := form
    · rcases wholeForm with rfl | ⟨digits,_⟩
      · exact ⟨'0',_,rfl,rfl⟩
      · obtain ⟨d,more,rfl⟩ := List.exists_cons_of_ne_nil digits.1
        exact ⟨d,_,rfl,by simp [beginsNumber,digits.2 d List.mem_cons_self]⟩
    · exact ⟨'-',_,rfl,rfl⟩
  obtain ⟨n,scanned⟩ := numberScanned form ends
  obtain ⟨c,more,rfl,number⟩ := begins
  exact ⟨n.value rest,tokensNumeral number scanned⟩

theorem writeNatWhole (n : Nat) : WholeForm (writeNat n) := by
  have digits (n : Nat) : Digits (writeNat n) :=
    ⟨Nat.toDigits_ne_nil,fun _ inside => Nat.isDigit_of_mem_toDigits (by decide) (by decide) inside⟩
  by_cases zero : n = 0
  · exact .inl (by rw [zero]; rfl)
  · refine .inr ⟨digits n,?_⟩
    induction n using Nat.strongRecOn with
    | ind n ih =>
      rw [writeNat,Nat.toDigits_eq_if (by decide)]
      split
      · rename_i small
        have each : ∀ n < 10, n ≠ 0 → n.digitChar ≠ '0' := by decide
        simpa using each n small zero
      · rename_i large
        have shorter := ih (n / 10) (by omega) (by omega)
        obtain ⟨d,more,same⟩ := List.exists_cons_of_ne_nil (digits (n / 10)).1
        rw [same] at shorter
        rw [show Nat.toDigits 10 (n / 10) = d :: more from same]
        exact shorter

theorem digitsValueNat (n : Nat) : digitsValue (writeNat n) = n := by
  have read : digitsValue (writeNat n) = Nat.ofDigitChars 10 (writeNat n) 0 := by
    simp only [digitsValue,Nat.ofDigitChars_eq_foldl,Nat.mul_comm]
  rw [read]
  exact Nat.ofDigitChars_toDigits (by decide) (by decide)

theorem tokensNatural (n : UInt64) {rest : List Char} (ends : Ends rest) :
    tokens (writeNat n.toNat ++ rest) = .number (.ok (.natural n)) (.ok ()) :: tokens rest := by
  have scanned : scanNumeral (writeNat n.toNat ++ rest) =
      .ok (⟨false,writeNat n.toNat,[],false,[]⟩,rest) :=
    numeralScanned (.inl rfl) (writeNatWhole n.toNat) ends.noDigit
      (noFraction fun c first => (ends.noPart c first).1)
      (noPower fun c first => (ends.noPart c first).2)
  have inWord : n.toNat < wordLimit := n.toNat_lt
  have value : Numeral.value ⟨false,writeNat n.toNat,[],false,[]⟩ rest = .ok (.natural n) := by
    simp [Numeral.value,Numeral.isInteger,digitsValueNat,inWord]
  have written := Nat.toDigits_ne_nil (n := n.toNat) (b := 10)
  obtain ⟨d,more,same⟩ := List.exists_cons_of_ne_nil written
  have digit : d.isDigit = true :=
    Nat.isDigit_of_mem_toDigits (b := 10) (n := n.toNat) (by decide) (by decide) (by simp [same])
  have whole : writeNat n.toNat = d :: more := same
  rw [whole] at scanned value ⊢
  rw [List.cons_append] at scanned ⊢
  rw [tokensNumeral (by simp [beginsNumber,digit]) scanned,value]

end GridRobot.Json
